import TypedQueries.Generation.RowType
import TypedQueries.Query.Statement

/-!
The struct of a query's parameters: one field for each placeholder position, in ascending order,
typed by the first column that is bound to it.
-/

namespace TypedQueries.Params

/-- Adds an entry to a list in ascending order of positions, unless its position is taken. -/
def insertPosition {α : Type} (position : Nat) (a : α) : List (Nat × α) → List (Nat × α)
  | [] => [(position, a)]
  | (p, b) :: rest =>
    if position < p then (position, a) :: (p, b) :: rest
    else if position = p then (p, b) :: rest
    else (p, b) :: insertPosition position a rest

/-- A column and the Go type of what is bound to it. -/
structure TypedColumn where
  column : String
  type : GoType
  deriving DecidableEq, Repr

/-- The Go type of what is bound to a column: that of the table's column, as a pointer if it may be
null and `pointers` are asked for; or a string if the name is that of an enumeration. -/
def bindType (r : Registry) (t : Table) (columns : List ResolvedColumn) (pointers : Bool)
    (name : String) : Except CompileError GoType :=
  match column? columns name with
  | some c => .ok (if pointers && c.nullable then .pointer c.type else c.type)
  | none =>
    match r.enumeration? name with
    | some e =>
      if Text.equalIgnoringCase e.name name then .ok .string
      else .error (.unknownColumn t.name (Text.lower name))
    | none => .error (.unknownColumn t.name (Text.lower name))

/-- The columns bound at each position, in ascending order. All columns are checked, also those
bound to literals. -/
def byPosition (typeOf : String → Except CompileError GoType) (binds : List Bind) :
    Except CompileError (List (Nat × TypedColumn)) :=
  binds.foldlM (fun entries b => do
    let type ← typeOf b.column
    match b.value with
    | .param position => return insertPosition position ⟨b.column, type⟩ entries
    | .literal _ => return entries) []

/-- The fields for typed positions. A name that is `taken` gets its position appended. -/
def fields (taken : List String) : List (Nat × TypedColumn) → List GoField
  | [] => []
  | (position, c) :: rest =>
    let name := Naming.exported c.column
    let tag := Naming.snake c.column
    let (name, tag) :=
      if taken.contains name then (s!"{name}{position}", s!"{tag}_{position}") else (name, tag)
    ⟨name, c.type, some ("json:\"" ++ tag ++ "\"")⟩ :: fields (name :: taken) rest

/-- The struct for the binds of a query, if one of them is a placeholder. -/
def struct? (query : String) (typeOf : String → Except CompileError GoType) (binds : List Bind) :
    Except CompileError (Option GoStruct) := do
  match ← byPosition typeOf binds with
  | [] => return none
  | entries => return some ⟨query ++ "Params", fields [] entries⟩

end TypedQueries.Params
