/-!
Type expressions of the generated Go source.
-/

namespace TypedQueries

inductive GoType where
  | string
  | int
  | float64
  | bool
  /-- `time.Time` -/
  | time
  | error
  /-- A type of the generated package. -/
  | named (name : String)
  /-- A type of an imported package. -/
  | qualified (package name : String)
  | pointer (inner : GoType)
  | slice (inner : GoType)
  deriving DecidableEq, Repr

namespace GoType

/-- `context.Context` -/
def context : GoType := qualified "context" "Context"

def render : GoType → String
  | string => "string"
  | int => "int"
  | float64 => "float64"
  | bool => "bool"
  | time => "time.Time"
  | error => "error"
  | named name => name
  | qualified package name => s!"{package}.{name}"
  | pointer inner => "*" ++ inner.render
  | slice inner => "[]" ++ inner.render

/-- Whether a type needs the package `time`. -/
def usesTime : GoType → Bool
  | time => true
  | qualified package _ => package == "time"
  | pointer inner => inner.usesTime
  | slice inner => inner.usesTime
  | _ => false

end GoType

end TypedQueries
