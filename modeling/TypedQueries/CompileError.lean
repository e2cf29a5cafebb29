import TypedQueries.Lexical.SyntaxError

/-!
Errors of compiling a schema and its queries.
-/

namespace TypedQueries

inductive CompileError where
  | malformed (e : SyntaxError)
  /-- A column has the type of an enumeration that is not declared. -/
  | unknownType (name : String)
  | unknownTable (name : String)
  | unknownColumn (table column : String)
  | unsupportedKind (name : String)
  | unsupportedDriver (name : String)
  | unimplemented (what : String)
  | duplicateDeclaration (name : String)
  | duplicateQuery (name firstFile secondFile : String)
  /-- The cause arose in a query block. -/
  | inQuery (name file : String) (cause : CompileError)
  deriving DecidableEq, Repr

namespace CompileError

def message : CompileError → String
  | malformed e => s!"syntax error: {e.message}"
  | unknownType name => s!"unknown SQL type '{name}'"
  | unknownTable name => s!"table '{name}' is not declared in the schema"
  | unknownColumn table column => s!"table '{table}' has no column '{column}'"
  | unsupportedKind name => s!"unsupported query kind '{name}', expected one, many or exec"
  | unsupportedDriver name => s!"unsupported driver '{name}', expected sqlite3 or postgres"
  | unimplemented what => s!"not implemented: {what}"
  | duplicateDeclaration name => s!"'{name}' is declared more than once in the schema"
  | duplicateQuery name firstFile secondFile =>
    s!"query '{name}' is defined in both '{firstFile}' and '{secondFile}'"
  | inQuery name file cause => s!"query '{name}' in '{file}': {cause.message}"

/-- The error itself, without the queries it arose in. -/
def root : CompileError → CompileError
  | inQuery _ _ cause => cause.root
  | e => e

/-- The messages of what lies behind an error, nearest first. -/
def causes : CompileError → List String
  | malformed e => [e.message]
  | inQuery _ _ cause => cause.message :: cause.causes
  | _ => []

end CompileError

end TypedQueries
