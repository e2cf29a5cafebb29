import Mathlib.Algebra.Group.Int.Defs
import Mathlib.Algebra.Group.Nat.Defs
import TypedQueries.Lexical.Lexer
import TypedQueries.Query.Statement

/-!
Two properties of statements. A statement is `Regular` if it has the shape and the values that the
grammar gives to one: positions and integers in range, full tuples, each value bound to its column.
It is `Bare` if its names can be written without quotes and are found again in what is rendered.
-/

namespace TypedQueries

/-- Whether a word, given in capitals, is one that queries give a meaning to. -/
def isReserved (name : String) : Bool := (Keyword.ofText? name).any Keyword.isQueryReserved

namespace Text

/-- Whether the characters are those of one word. -/
def isWord : List Char → Bool
  | [] => false
  | c :: cs => isWordStart c && cs.all isWordPart

theorem isWord_cons {c : Char} {cs : List Char} :
    isWord (c :: cs) = true ↔ isWordStart c = true ∧ ∀ d ∈ cs, isWordPart d = true := by
  simp [isWord]

theorem isWordPart_of_isWord {cs : List Char} (h : isWord cs = true) :
    ∀ c ∈ cs, isWordPart c = true := by
  cases cs with
  | nil => cases h
  | cons c cs =>
    rw [isWord_cons] at h
    intro d hd
    rcases List.mem_cons.1 hd with rfl | hd
    · exact isWordPart_of_isWordStart h.1
    · exact h.2 d hd

end Text

/-- A column whose lower-case form is a word that names it again. -/
def isBareColumn (name : String) : Bool :=
  Text.isWord (Text.lower name).toList && Text.upper (Text.lower name) == name && !isReserved name

theorem isBareColumn_iff {name : String} :
    isBareColumn name = true ↔ Text.isWord (Text.lower name).toList = true ∧
      Text.upper (Text.lower name) = name ∧ isReserved name = false := by
  simp [isBareColumn, and_assoc]

/-- A star or a bare column. -/
def isBareItem (name : String) : Bool := name == "*" || isBareColumn name

/-- A table whose name is a word that names it again. -/
def isBareTable (name : String) : Bool :=
  Text.isWord name.toList && Text.lower (Text.upper name) == name && !isReserved (Text.upper name)

theorem isBareTable_iff {name : String} :
    isBareTable name = true ↔ Text.isWord name.toList = true ∧
      Text.lower (Text.upper name) = name ∧ isReserved (Text.upper name) = false := by
  simp [isBareTable, and_assoc]

/-- Positions that fit 64 bits without 0, and integers that fit 63 bits. -/
def BindValue.InRange : BindValue → Prop
  | .param position => 1 ≤ position ∧ position < 2 ^ 64
  | .literal (.integer n) => 0 ≤ n ∧ n < 2 ^ 63
  | .literal _ => True

instance : (v : BindValue) → Decidable v.InRange
  | .param position => inferInstanceAs (Decidable (1 ≤ position ∧ position < 2 ^ 64))
  | .literal (.integer n) => inferInstanceAs (Decidable (0 ≤ n ∧ n < 2 ^ 63))
  | .literal (.string _) => isTrue trivial
  | .literal (.boolean _) => isTrue trivial
  | .literal .null => isTrue trivial

/-- Values that are rendered without a sign. -/
def BindValue.isUnsigned : BindValue → Bool
  | .literal (.integer n) => 0 ≤ n
  | _ => true

theorem BindValue.InRange.isUnsigned {v : BindValue} (h : v.InRange) : v.isUnsigned = true := by
  match v with
  | .param _ => rfl
  | .literal (.integer _) => exact decide_eq_true h.1
  | .literal (.string _) => rfl
  | .literal (.boolean _) => rfl
  | .literal .null => rfl

/-- What a condition may compare with: all values but truth values and null. -/
def BindValue.isOperand : BindValue → Bool
  | .literal (.boolean _) => false
  | .literal .null => false
  | _ => true

structure Condition.Regular (c : Condition) : Prop where
  column : c.bind.column = c.column
  operand : c.bind.value.isOperand = true
  inRange : c.bind.value.InRange

instance (c : Condition) : Decidable c.Regular :=
  decidable_of_iff (c.bind.column = c.column ∧ c.bind.value.isOperand = true ∧ c.bind.value.InRange)
    ⟨fun ⟨h, h', h''⟩ => ⟨h, h', h''⟩, fun ⟨h, h', h''⟩ => ⟨h, h', h''⟩⟩

structure Select.Regular (s : Select) : Prop where
  conditions : ∀ c ∈ s.conditions, c.Regular
  limit : ∀ n ∈ s.limit?, n < 2 ^ 64
  offset : ∀ n ∈ s.offset?, n < 2 ^ 64

instance (s : Select) : Decidable s.Regular :=
  decidable_of_iff ((∀ c ∈ s.conditions, c.Regular) ∧ (∀ n ∈ s.limit?, n < 2 ^ 64) ∧
      ∀ n ∈ s.offset?, n < 2 ^ 64)
    ⟨fun ⟨h, h', h''⟩ => ⟨h, h', h''⟩, fun ⟨h, h', h''⟩ => ⟨h, h', h''⟩⟩

/-- The values are one or more full tuples, and value `j` is bound to column `j` modulo the width. -/
structure Insert.Regular (i : Insert) : Prop where
  columns : i.columns ≠ []
  values : i.values ≠ []
  full : i.columns.length ∣ i.values.length
  column : ∀ j < i.values.length,
    i.values[j]?.map Bind.column = i.columns[j % i.columns.length]?
  inRange : ∀ b ∈ i.values, b.value.InRange

instance (i : Insert) : Decidable i.Regular :=
  decidable_of_iff (i.columns ≠ [] ∧ i.values ≠ [] ∧ i.columns.length ∣ i.values.length ∧
      (∀ j < i.values.length, i.values[j]?.map Bind.column = i.columns[j % i.columns.length]?) ∧
      ∀ b ∈ i.values, b.value.InRange)
    ⟨fun ⟨h₁, h₂, h₃, h₄, h₅⟩ => ⟨h₁, h₂, h₃, h₄, h₅⟩,
      fun ⟨h₁, h₂, h₃, h₄, h₅⟩ => ⟨h₁, h₂, h₃, h₄, h₅⟩⟩

def Statement.Regular : Statement → Prop
  | select s => s.Regular
  | insert i => i.Regular

instance : (s : Statement) → Decidable s.Regular
  | .select s => inferInstanceAs (Decidable s.Regular)
  | .insert i => inferInstanceAs (Decidable i.Regular)

/-- All names are bare, the select list is not empty and nothing stands before the first condition. -/
structure Select.Bare (s : Select) : Prop where
  columns_ne : s.columns ≠ []
  columns : ∀ c ∈ s.columns, isBareItem c = true
  table : isBareTable s.table = true
  chain : ∀ c ∈ s.conditions.head?, c.chain? = none
  conditions : ∀ c ∈ s.conditions, isBareColumn c.column = true

instance (s : Select) : Decidable s.Bare :=
  decidable_of_iff (s.columns ≠ [] ∧ (∀ c ∈ s.columns, isBareItem c = true) ∧
      isBareTable s.table = true ∧ (∀ c ∈ s.conditions.head?, c.chain? = none) ∧
      ∀ c ∈ s.conditions, isBareColumn c.column = true)
    ⟨fun ⟨h₁, h₂, h₃, h₄, h₅⟩ => ⟨h₁, h₂, h₃, h₄, h₅⟩,
      fun ⟨h₁, h₂, h₃, h₄, h₅⟩ => ⟨h₁, h₂, h₃, h₄, h₅⟩⟩

structure Insert.Bare (i : Insert) : Prop where
  table : isBareTable i.table = true
  columns : ∀ c ∈ i.columns, isBareColumn c = true
  returning : ∀ c ∈ i.returning, isBareItem c = true

instance (i : Insert) : Decidable i.Bare :=
  decidable_of_iff (isBareTable i.table = true ∧ (∀ c ∈ i.columns, isBareColumn c = true) ∧
      ∀ c ∈ i.returning, isBareItem c = true)
    ⟨fun ⟨h, h', h''⟩ => ⟨h, h', h''⟩, fun ⟨h, h', h''⟩ => ⟨h, h', h''⟩⟩

def Statement.Bare : Statement → Prop
  | select s => s.Bare
  | insert i => i.Bare

instance : (s : Statement) → Decidable s.Bare
  | .select s => inferInstanceAs (Decidable s.Bare)
  | .insert i => inferInstanceAs (Decidable i.Bare)

end TypedQueries
