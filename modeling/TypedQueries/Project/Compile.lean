import TypedQueries.Compilation
import TypedQueries.Config.Load
import TypedQueries.Project.Log

/-!
Compilation of a project: its schema file, then its query files in order. These are one file, or all
files of a directory that have the right extension.
-/

namespace TypedQueries

def queryExtension : String := "sql"

/-- The paths of the files among the entries below a directory, if they have the extension of
queries. -/
def queryPaths (directory : Path) (entries : List (Place × Entry)) : List Path :=
  entries.filterMap fun (names, entry) =>
    let path := names.foldl (fun p name => p.join ⟨name⟩) directory
    match entry with
    | .file _ => if path.extension? = some queryExtension then some path else none
    | .directory => none

/-- A file alone, whatever its name, or the query files at any depth below a directory in the order
of their paths. -/
def queryFiles (d : Disk) (path : Path) : Except ProjectError (List Path) :=
  match d.find path with
  | .error e => .error (.disk path e)
  | .ok (_, .file _) => .ok [path]
  | .ok (place, .directory) => .ok ((queryPaths path (d.tree.below place)).mergeSort Path.le)

/-- The text of a file of the project. -/
def Disk.readFile (d : Disk) (path : Path) : Except ProjectError String :=
  (d.read path).mapError (.disk path)

/-- The compilation of a schema text; its declarations are reported once it is read. -/
def loadSchema (now : Clock) (schema : String) : Logged Compilation :=
  ⟨match parseSchema now schema with
    | .ok items => items.map .declared
    | .error _ => [],
    (Compilation.ofSchema now schema).mapError .compile⟩

/-- The event that a block gave a query. -/
def QueryBlock.event (b : QueryBlock) (q : GeneratedQuery) : LogEvent :=
  .generatedQuery q.name b.kind (q.params?.map (·.fields.length)|>.getD 0)

namespace Compilation

/-- Compiles the blocks of a query file. -/
def addQueryFile (c : Compilation) (d : Disk) (path : Path) : Logged Compilation := do
  let text ← Logged.of (d.readFile path)
  let blocks := QueryBlock.ofText path.text text
  Logged.report [.extractedBlocks path.text blocks.length]
  let (after, error?) := c.addBlocks blocks
  -- the queries that were added are those of the first blocks, in order
  Logged.report (List.zipWith QueryBlock.event blocks (after.queries.drop c.queries.length))
  match error? with
  | some e => Logged.of (.error (.compile e))
  | none =>
    Logged.report [.compiledFile path.text blocks.length]
    return after

def addQueryFiles (c : Compilation) (d : Disk) : List Path → Logged Compilation
  | [] => pure c
  | path :: paths => do
    let c ← c.addQueryFile d path
    c.addQueryFiles d paths

end Compilation

namespace Config

/-- Compiles the project of a configuration. -/
def compile (c : Config) (now : Clock) (d : Disk) : Logged Compilation := do
  let schema ← Logged.of (d.readFile c.schema)
  let compilation ← loadSchema now schema
  Logged.report [.loadedSchema c.schema compilation.registry.items.length]
  let files ← Logged.of (queryFiles d c.queries)
  let compilation ← compilation.addQueryFiles d files
  Logged.report [.compiledQueries compilation.queries.length]
  return compilation

/-- The sources that a project generates. -/
def generate (c : Config) (now : Clock) (d : Disk) : Logged GeneratedSources := do
  let compilation ← c.compile now d
  Logged.of ((compilation.render c.package c.driver).mapError .compile)

/-- Compiles a project and generates its sources, which are left out. -/
def check (c : Config) (now : Clock) (d : Disk) : Logged Unit := do
  let compilation ← c.compile now d
  let _ ← Logged.of ((compilation.render c.package c.driver).mapError .compile)
  Logged.report [.checked compilation.registry.items.length compilation.queries.length]

end Config

end TypedQueries
