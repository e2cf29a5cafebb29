/-!
Query statements: SELECT with conditions and bounds, INSERT with tuples of values.
-/

namespace TypedQueries

inductive Literal where
  | string (text : String)
  | integer (n : Int)
  | boolean (b : Bool)
  | null
  deriving DecidableEq, Repr

/-- What a column is compared with or set to: a placeholder by its position, or a literal. -/
inductive BindValue where
  | param (position : Nat)
  | literal (value : Literal)
  deriving DecidableEq, Repr

structure Bind where
  column : String
  value : BindValue
  deriving DecidableEq, Repr

/-- The position of a placeholder; 0 for a literal. -/
def Bind.position (b : Bind) : Nat :=
  match b.value with
  | .param position => position
  | .literal _ => 0

inductive Comparison where
  | eq | notEq | lt | gt | ltEq | gtEq
  deriving DecidableEq, Repr

def Comparison.text : Comparison → String
  | .eq => "="
  | .notEq => "!="
  | .lt => "<"
  | .gt => ">"
  | .ltEq => "<="
  | .gtEq => ">="

inductive Connective where
  | and | or
  deriving DecidableEq, Repr

def Connective.text : Connective → String
  | .and => "AND"
  | .or => "OR"

/-- A comparison of a column; `chain?` joins it to the condition before. -/
structure Condition where
  chain? : Option Connective
  column : String
  comparison : Comparison
  bind : Bind
  deriving DecidableEq, Repr

structure Select where
  distinct : Bool
  columns : List String
  table : String
  conditions : List Condition
  limit? : Option Nat
  offset? : Option Nat
  deriving DecidableEq, Repr

/-- Whether the select list stands for all columns: it is empty or holds a star. -/
def Select.selectsAll (s : Select) : Bool := s.columns.isEmpty || s.columns.contains "*"

/-- What an INSERT does with a row that breaks a constraint. -/
inductive ConflictAction where
  | replace | ignore | abort | fail | rollback
  deriving DecidableEq, Repr

namespace ConflictAction

def all : List ConflictAction := [replace, ignore, abort, fail, rollback]

def text : ConflictAction → String
  | replace => "REPLACE"
  | ignore => "IGNORE"
  | abort => "ABORT"
  | fail => "FAIL"
  | rollback => "ROLLBACK"

/-- The action that a word in capitals names. -/
def ofText? (word : String) : Option ConflictAction := all.find? fun a => a.text == word

theorem ofText?_text (a : ConflictAction) : ofText? a.text = some a := by
  cases a <;> decide

end ConflictAction

/-- `values` holds the tuples one after the other. -/
structure Insert where
  conflict? : Option ConflictAction
  table : String
  columns : List String
  values : List Bind
  returning : List String
  deriving DecidableEq, Repr

/-- Whether the RETURNING list holds a star. -/
def Insert.returnsAll (i : Insert) : Bool := i.returning.contains "*"

inductive Statement where
  | select (s : Select)
  | insert (i : Insert)
  deriving DecidableEq, Repr

namespace Statement

def table : Statement → String
  | select s => s.table
  | insert i => i.table

/-- The binds in source order. -/
def binds : Statement → List Bind
  | select s => s.conditions.map Condition.bind
  | insert i => i.values

def mapBinds (f : Bind → Bind) : Statement → Statement
  | select s => select { s with conditions := s.conditions.map fun c => { c with bind := f c.bind } }
  | insert i => insert { i with values := i.values.map f }

@[simp]
theorem binds_mapBinds (f : Bind → Bind) (s : Statement) : (s.mapBinds f).binds = s.binds.map f := by
  cases s <;> simp [mapBinds, binds, Function.comp_def]

end Statement

end TypedQueries
