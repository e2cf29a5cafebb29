import TypedQueries.Generation.Driver
import TypedQueries.Generation.Query

/-!
The two files of a generated package: the queries file with the schema types and the methods, and
the database file with the interfaces and the driver's adapter.
-/

namespace TypedQueries

/-- The comment at the top of every generated file. -/
def generatedHeader : String := "Code generated by shogunc. DO NOT EDIT."

structure GeneratedSources where
  queries : String
  db : String
  deriving DecidableEq, Repr

/-- The queries file imports `context` for methods and `time` for columns and parameters. -/
def queriesFile (package : String) (r : Registry) (queries : List GeneratedQuery) :
    Except CompileError GoFile := do
  let types ← r.goDecls
  let decls := types ++ queries.flatMap GeneratedQuery.decls
  let imports := (if queries.isEmpty then [] else ["context"]) ++
    (if decls.any GoDecl.usesTime then ["time"] else [])
  return ⟨some generatedHeader, package, imports, decls⟩

def renderQueriesFile (package : String) (r : Registry) (queries : List GeneratedQuery) :
    Except CompileError String :=
  GoFile.render <$> queriesFile package r queries

def renderDbFile (package : String) (d : Driver) : String :=
  let importLine (spec : String) : String := if spec.isEmpty then "\n" else "\t" ++ spec ++ "\n"
  s!"// {generatedHeader}\n\npackage {package}\n\nimport (\n" ++
    String.join (d.imports.map importLine) ++ ")\n\n" ++ Driver.preamble ++ "\n" ++ d.adapter

end TypedQueries
