import TypedQueries.Generation.Package
import TypedQueries.Query.Parser
import TypedQueries.Schema.Parser

/-!
Compilation of query files against one schema: a registry, and the queries compiled so far in the
order in which they were added.
-/

namespace TypedQueries

/-- The queries in the order in which they were added, and the file that each name came from. -/
structure Compilation where
  registry : Registry
  queries : List GeneratedQuery
  origins : List (String × String)
  deriving Repr

/-- The query of a block. -/
def QueryBlock.compile (r : Registry) (b : QueryBlock) : Except CompileError GeneratedQuery := do
  let kind ← QueryKind.ofText b.kind
  let statement ← (parseQuery b.sql).mapError .malformed
  generate r b.name kind statement

/-- The registry of schema items whose columns all have known types. -/
def Registry.checked (items : List SchemaItem) : Except CompileError Registry := do
  let r ← Registry.ofItems items
  let _ ← r.tables.mapM r.resolveTable
  return r

namespace Compilation

def ofRegistry (r : Registry) : Compilation := ⟨r, [], []⟩

/-- The compilation of a schema text, without queries yet. -/
def ofSchema (now : Clock) (schema : String) : Except CompileError Compilation := do
  let items ← (parseSchema now schema).mapError .malformed
  ofRegistry <$> Registry.checked items

/-- Compiles a block under a name that is not yet taken; with the error if this fails. -/
def addBlock (c : Compilation) (b : QueryBlock) : Compilation × Option CompileError :=
  match c.origins.lookup b.name with
  | some firstFile => (c, some (.duplicateQuery b.name firstFile b.file))
  | none =>
    match b.compile c.registry with
    | .error e => (c, some (.inQuery b.name b.file e))
    | .ok query =>
      (⟨c.registry, c.queries ++ [query], (b.name, b.file) :: c.origins⟩, none)

/-- Compiles blocks up to the first that fails. -/
def addBlocks (c : Compilation) : List QueryBlock → Compilation × Option CompileError
  | [] => (c, none)
  | b :: bs =>
    match c.addBlock b with
    | (c, none) => c.addBlocks bs
    | (c, some e) => (c, some e)

/-- Compiles the blocks of a query file; the blocks before a failing one stay. -/
def addFile (c : Compilation) (file text : String) : Compilation × Option CompileError :=
  c.addBlocks (QueryBlock.ofText file text)

def render (c : Compilation) (package : String) (d : Driver) :
    Except CompileError GeneratedSources := do
  return ⟨← renderQueriesFile package c.registry c.queries, renderDbFile package d⟩

end Compilation

end TypedQueries
