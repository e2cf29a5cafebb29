import TypedQueries.Target.Type

/-!
String literals, expressions and statements of the generated Go source, and their text: a tab for each
level of nesting, one statement a line.
-/

namespace TypedQueries

namespace Quoted

/-- The control characters: the first 32, and 127 to 159. -/
def isControl (c : Char) : Bool := c.toNat < 32 || (127 ≤ c.toNat && c.toNat < 160)

/-- Four hexadecimal digits. -/
def hex4 (n : Nat) : List Char :=
  let digits := Nat.toDigits 16 n
  List.replicate (4 - digits.length) '0' ++ digits

def escape (c : Char) : List Char :=
  if c = '"' then ['\\', '"']
  else if c = '\\' then ['\\', '\\']
  else if c = '\n' then ['\\', 'n']
  else if c = '\r' then ['\\', 'r']
  else if c = '\t' then ['\\', 't']
  else if isControl c then '\\' :: 'u' :: hex4 c.toNat
  else [c]

/-- The literal whose value is `text`. -/
def encode (text : String) : String :=
  String.ofList ('"' :: text.toList.flatMap escape ++ ['"'])

end Quoted

inductive GoExpr where
  | ident (name : String)
  /-- A string literal, by its value. -/
  | str (value : String)
  | nil
  | selector (base : GoExpr) (name : String)
  | call (function : GoExpr) (arguments : List GoExpr)
  | address (inner : GoExpr)
  | notEqual (left right : GoExpr)
  deriving Repr

namespace GoExpr

mutual

def render : GoExpr → String
  | ident name => name
  | str value => Quoted.encode value
  | nil => "nil"
  | selector base name => base.render ++ "." ++ name
  | call function arguments => function.render ++ "(" ++ renderList arguments ++ ")"
  | address inner => "&" ++ inner.render
  | notEqual left right => left.render ++ " != " ++ right.render

/-- Expressions with commas between them. -/
def renderList : List GoExpr → String
  | [] => ""
  | e :: es => e.render ++ renderMore es

def renderMore : List GoExpr → String
  | [] => ""
  | e :: es => ", " ++ e.render ++ renderMore es

end

end GoExpr

inductive GoStmt where
  /-- `a, b := value` -/
  | define (names : List String) (value : GoExpr)
  /-- `a, b = value` -/
  | assign (names : List String) (value : GoExpr)
  /-- `var name T` -/
  | declare (name : String) (type : GoType)
  /-- `if init; condition`, with a body -/
  | branch (init : Option GoStmt) (condition : GoExpr) (body : List GoStmt)
  /-- `for condition`, with a body -/
  | loop (condition : GoExpr) (body : List GoStmt)
  | defer (call : GoExpr)
  | giveBack (results : List GoExpr)
  deriving Repr

namespace GoStmt

/-- `if err != nil` around a return, with or without a statement in front of the condition. -/
def returnOnError (init : Option GoStmt) (results : List GoExpr) : GoStmt :=
  branch init (.notEqual (.ident "err") .nil) [giveBack results]

def indent (depth : Nat) : String := String.ofList (List.replicate depth '\t')

/-- A statement on a line of its own. -/
def line (depth : Nat) (text : String) : String := indent depth ++ text ++ "\n"

def defineText (names : List String) (value : GoExpr) : String :=
  ", ".intercalate names ++ " := " ++ value.render

def assignText (names : List String) (value : GoExpr) : String :=
  ", ".intercalate names ++ " = " ++ value.render

/-- The text without a line break, which only definitions and assignments have. -/
def simple? : GoStmt → Option String
  | define names value => some (defineText names value)
  | assign names value => some (assignText names value)
  | _ => none

mutual

/-- A statement at a depth of nesting, with its line break. -/
def render (depth : Nat) : GoStmt → String
  | define names value => line depth (defineText names value)
  | assign names value => line depth (assignText names value)
  | declare name type => line depth ("var " ++ name ++ " " ++ type.render)
  | branch none condition body =>
    line depth ("if " ++ condition.render ++ " \x7b") ++ renderBody (depth + 1) body ++
      line depth "\x7d"
  | branch (some init) condition body =>
    let first := match init.simple? with
      | some text => text
      | none => init.render 0
    line depth ("if " ++ first ++ "; " ++ condition.render ++ " \x7b") ++
      renderBody (depth + 1) body ++ line depth "\x7d"
  | loop condition body =>
    line depth ("for " ++ condition.render ++ " \x7b") ++ renderBody (depth + 1) body ++
      line depth "\x7d"
  | defer call => line depth ("defer " ++ call.render)
  | giveBack results =>
    line depth ("return" ++ (if results.isEmpty then "" else " ") ++ GoExpr.renderList results)

/-- Statements at a depth of nesting. -/
def renderBody (depth : Nat) : List GoStmt → String
  | [] => ""
  | s :: ss => s.render depth ++ renderBody depth ss

end

end GoStmt

end TypedQueries
