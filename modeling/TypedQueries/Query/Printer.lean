import TypedQueries.Query.Statement
import TypedQueries.Text.CaseMapping

/-!
Statements as normalized text: keywords in capitals, columns in lower case, single blanks, a
semicolon at the end.
-/

namespace TypedQueries

/-- A text in single quotes, with the quotes inside it doubled. -/
def quoteText (text : String) : String :=
  "'" ++ String.ofList (text.toList.flatMap fun c => if c = '\'' then ['\'', '\''] else [c]) ++ "'"

def Literal.render : Literal → String
  | string text => quoteText text
  | integer n => toString n
  | boolean true => "TRUE"
  | boolean false => "FALSE"
  | null => "NULL"

def BindValue.render : BindValue → String
  | param position => s!"${position}"
  | literal value => value.render

def renderColumns (columns : List String) : String := ", ".intercalate (columns.map Text.lower)

def Condition.render (c : Condition) : String :=
  s!"{Text.lower c.column} {c.comparison.text} {c.bind.value.render}"

/-- Conditions behind the first one, each joined to what stands before it. -/
def renderChained : List Condition → String
  | [] => ""
  | c :: cs =>
    let joint := match c.chain? with
      | some chain => s!" {chain.text} "
      | none => " "
    joint ++ c.render ++ renderChained cs

def renderWhere : List Condition → String
  | [] => ""
  | c :: cs => " WHERE " ++ c.render ++ renderChained cs

/-- A keyword and a number, where there is one. -/
def renderBound (keyword : String) : Option Nat → String
  | some n => s!" {keyword} {n}"
  | none => ""

def Select.render (s : Select) : String :=
  "SELECT " ++ (if s.distinct then "DISTINCT " else "") ++
    (if s.columns.isEmpty then "*" else renderColumns s.columns) ++
    " FROM " ++ s.table ++ renderWhere s.conditions ++
    renderBound "LIMIT" s.limit? ++ renderBound "OFFSET" s.offset? ++ ";"

/-- Values in tuples of `width`, the last one perhaps shorter. A width of 0 counts as 1. -/
def tuplesOf {α : Type} (width : Nat) : List α → List (List α)
  | [] => []
  | first :: values =>
    let others := width - 1
    (first :: values.take others) :: tuplesOf width (values.drop others)
termination_by values => values.length
decreasing_by
  rw [List.length_drop, List.length_cons]
  omega

def renderTuple (binds : List Bind) : String :=
  "(" ++ ", ".intercalate (binds.map fun b => b.value.render) ++ ")"

def Insert.render (i : Insert) : String :=
  let conflict := match i.conflict? with
    | some action => s!"OR {action.text} "
    | none => ""
  let returning := if i.returning.isEmpty then "" else " RETURNING " ++ renderColumns i.returning
  "INSERT " ++ conflict ++ "INTO " ++ i.table ++ " (" ++ renderColumns i.columns ++ ") VALUES " ++
    ", ".intercalate ((tuplesOf i.columns.length i.values).map renderTuple) ++ returning ++ ";"

def Statement.render : Statement → String
  | select s => s.render
  | insert i => i.render

end TypedQueries
