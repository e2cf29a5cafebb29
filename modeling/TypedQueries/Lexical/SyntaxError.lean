import TypedQueries.Lexical.Token

/-!
Syntax errors: what was wrong, at which token, and in which column definition of a table.
-/

namespace TypedQueries

/-- Why a text was rejected. -/
inductive SyntaxFault where
  /-- The grammar asks for something else than the token `found`. -/
  | unexpected (expected : String) (found : Token)
  | integerOutOfRange (literal : String)
  | bindPositionZero
  | bindPositionOutOfRange (literal : String)
  /-- A VALUES tuple does not match the column list in length. -/
  | tupleLength (values columns : Nat)
  | unknownDataType (literal : String)
  | typeArgumentOutOfRange (literal : String)
  deriving DecidableEq, Repr

namespace SyntaxFault

def message : SyntaxFault → String
  | unexpected expected found => s!"expected {expected}, found {found.render}"
  | integerOutOfRange literal => s!"integer '{literal}' is out of range"
  | bindPositionZero => "bind positions start at $1"
  | bindPositionOutOfRange literal => s!"bind position '{literal}' is out of range"
  | tupleLength values columns => s!"VALUES tuple has {values} values for {columns} columns"
  | unknownDataType literal => s!"unknown data type '{literal}'"
  | typeArgumentOutOfRange literal => s!"type argument '{literal}' is out of range"

/-- The text of the token that was found instead, where there is one to name. -/
def found? : SyntaxFault → Option String
  | unexpected _ found => some found.literal
  | unknownDataType literal => some literal
  | _ => none

end SyntaxFault

/-- `field?` counts the column definitions of the table before the faulty one. -/
structure SyntaxError where
  fault : SyntaxFault
  span : Span
  field? : Option Nat
  deriving DecidableEq, Repr

namespace SyntaxError

/-- A fault at the place of a token. -/
def ofToken (t : Token) (fault : SyntaxFault) : SyntaxError := ⟨fault, t.span, none⟩

def unexpected (expected : String) (found : Token) : SyntaxError :=
  ⟨.unexpected expected found, found.span, none⟩

def inField (index : Nat) (e : SyntaxError) : SyntaxError := { e with field? := some index }

def message (e : SyntaxError) : String :=
  let field := match e.field? with
    | some index => s!" in field {index}"
    | none => ""
  s!"{e.fault.message}{field} at position {e.span.render}"

end SyntaxError

end TypedQueries
