import TypedQueries.Inspection.View
import TypedQueries.Project.Compile

/-!
What a project declares and asks, before any of it is checked against the schema.
-/

namespace TypedQueries

structure InspectedQuery where
  block : QueryBlock
  statement : Statement
  deriving DecidableEq, Repr

def InspectedQuery.view (q : InspectedQuery) : JsonValue :=
  .object [("name", .text q.block.name), ("kind", .text q.block.kind), ("sql", .text q.block.sql),
    ("file_name", .text q.block.file), ("statement", q.statement.view)]

/-- A block with its statement. -/
def QueryBlock.inspect (b : QueryBlock) : Except ProjectError InspectedQuery :=
  match parseQuery b.sql with
  | .ok statement => .ok ⟨b, statement⟩
  | .error e => .error (.compile (.inQuery b.name b.file (.malformed e)))

/-- The blocks of a query file with their statements. -/
def Disk.inspectFile (d : Disk) (path : Path) : Except ProjectError (List InspectedQuery) := do
  let text ← d.readFile path
  (QueryBlock.ofText path.text text).mapM QueryBlock.inspect

namespace Config

/-- The declarations of the schema file. -/
def inspectSchema (c : Config) (now : Clock) (d : Disk) : Except ProjectError (List SchemaItem) := do
  let schema ← d.readFile c.schema
  (parseSchema now schema).mapError fun e => .compile (.malformed e)

/-- The queries of all query files, in order. -/
def inspectQueries (c : Config) (d : Disk) : Except ProjectError (List InspectedQuery) := do
  let files ← queryFiles d c.queries
  List.flatten <$> files.mapM d.inspectFile

end Config

end TypedQueries
