/-!
JSON values and their indented form: two spaces a level, the fields of an object in the order given.
-/

namespace TypedQueries

inductive JsonValue where
  | null
  | bool (b : Bool)
  | int (n : Int)
  | text (t : String)
  | list (values : List JsonValue)
  | object (fields : List (String × JsonValue))

namespace JsonValue

/-- Only quotes, backslashes and the first 32 characters are escaped. -/
def escape (c : Char) : List Char :=
  if c = '"' then ['\\', '"']
  else if c = '\\' then ['\\', '\\']
  else if c = '\x08' then ['\\', 'b']
  else if c = '\t' then ['\\', 't']
  else if c = '\n' then ['\\', 'n']
  else if c = '\x0c' then ['\\', 'f']
  else if c = '\r' then ['\\', 'r']
  else if c.toNat < 16 then ['\\', 'u', '0', '0', '0'] ++ Nat.toDigits 16 c.toNat
  else if c.toNat < 32 then ['\\', 'u', '0', '0'] ++ Nat.toDigits 16 c.toNat
  else [c]

def quote (t : String) : String := String.ofList ('"' :: t.toList.flatMap escape ++ ['"'])

def ofOption {α : Type} (view : α → JsonValue) : Option α → JsonValue
  | some a => view a
  | none => null

def newLine (depth : Nat) : String := "\n" ++ String.ofList (List.replicate (2 * depth) ' ')

mutual

/-- A value whose first line stands at a depth. -/
def render (depth : Nat) : JsonValue → String
  | null => "null"
  | bool true => "true"
  | bool false => "false"
  | int n => toString n
  | text t => quote t
  | list [] => "[]"
  | list (v :: vs) => "[" ++ renderValues (depth + 1) (v :: vs) ++ newLine depth ++ "]"
  | object [] => "\x7b\x7d"
  | object (f :: fs) => "\x7b" ++ renderFields (depth + 1) (f :: fs) ++ newLine depth ++ "\x7d"

def renderValues (depth : Nat) : List JsonValue → String
  | [] => ""
  | [v] => newLine depth ++ v.render depth
  | v :: vs => newLine depth ++ v.render depth ++ "," ++ renderValues depth vs

def renderFields (depth : Nat) : List (String × JsonValue) → String
  | [] => ""
  | [(key, v)] => newLine depth ++ quote key ++ ": " ++ v.render depth
  | (key, v) :: fs =>
    newLine depth ++ quote key ++ ": " ++ v.render depth ++ "," ++ renderFields depth fs

end

end JsonValue

end TypedQueries
