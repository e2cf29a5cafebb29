import Mathlib.Algebra.Group.Nat.Defs
import Mathlib.Data.List.Induction
import TypedQueries.Proofs.TokenParts
import TypedQueries.Schema.Parser

/-!
The schema language, as a relation between tokens and the declarations that they stand for. It says
which tokens a part may consist of and puts parts together, without an order in which they are tried.
-/

namespace TypedQueries

/-- The value that a DEFAULT sets. -/
def Modifier.value? : Modifier → Option String
  | default value => some value
  | _ => none

/-- A column with the given modifiers, in whatever order they stand. The last DEFAULT wins. -/
def Field.ofModifiers (name : String) (type : DataType) (ms : List Modifier) : Field where
  name := name
  dataType := type
  notNull := .notNull ∈ ms
  default? := (ms.filterMap Modifier.value?).getLast?
  primaryKey := .primaryKey ∈ ms
  unique := .unique ∈ ms

namespace Schema

/-- A quoted name stands for itself, a bare word for its small form. -/
inductive IsName : Token → String → Prop
  | quoted {t : Token} (h : t.kind = .string) : IsName t t.literal
  | ident {t : Token} (h : t.kind = .ident) : IsName t (Text.lower t.literal)
  | keyword {t : Token} {k : Keyword} (h : t.kind = .keyword k) : IsName t (Text.lower t.literal)

/-- A number that fits 32 bits. -/
structure IsArgument (t : Token) (n : Nat) : Prop where
  kind : t.kind = .integer
  value : t.number = n
  bound : n < 2 ^ 32

/-- Numbers in parentheses. -/
inductive AreArguments : List Token → List Nat → Prop
  | mk {left right : Token} {ts : List Token} {ns : List Nat} (hleft : left.kind = .leftParen)
      (h : CommaSeparated (OneToken IsArgument) ts ns) (hright : right.kind = .rightParen) :
      AreArguments (left :: (ts ++ [right])) ns

/-- The built-in types by their names, where they stand without arguments. -/
def builtinTypes : List (String × DataType) :=
  [("UUID", .uuid), ("TEXT", .text), ("VARCHAR", .varchar none), ("INT", .int), ("INTEGER", .int),
    ("BIGINT", .bigint), ("SMALLINT", .smallint), ("DECIMAL", .decimal none none),
    ("NUMERIC", .decimal none none), ("BOOLEAN", .boolean), ("BOOL", .boolean),
    ("TIMESTAMP", .timestamp), ("DATE", .date)]

inductive IsDataType : List Token → DataType → Prop
  | enum {t : Token} (h : t.kind = .string) : IsDataType [t] (.enum t.literal)
  | builtin {t : Token} {type : DataType} (h : t.kind = .ident)
      (hname : (t.literal, type) ∈ builtinTypes) : IsDataType [t] type
  | varchar {t : Token} {ts : List Token} {n : Nat} (h : t.kind = .ident)
      (hname : t.literal = "VARCHAR") (harguments : AreArguments ts [n]) :
      IsDataType (t :: ts) (.varchar (some n))
  | decimal {t : Token} {ts : List Token} {n : Nat} (h : t.kind = .ident)
      (hname : t.literal = "DECIMAL" ∨ t.literal = "NUMERIC") (harguments : AreArguments ts [n]) :
      IsDataType (t :: ts) (.decimal (some n) none)
  | scaled {t : Token} {ts : List Token} {n m : Nat} (h : t.kind = .ident)
      (hname : t.literal = "DECIMAL" ∨ t.literal = "NUMERIC")
      (harguments : AreArguments ts [n, m]) : IsDataType (t :: ts) (.decimal (some n) (some m))

/-- The words that mean the current time without a call. -/
def IsCurrentTime (t : Token) : Prop :=
  t.kind = .ident ∧ (t.literal = "CURRENT_TIMESTAMP" ∨ t.literal = "CURRENT_DATE")

def IsLiteral (t : Token) : Prop :=
  t.kind = .string ∨ t.kind = .integer ∨ t.kind = .keyword .true ∨ t.kind = .keyword .false

/-- How a column that holds a time writes the present one. No other column holds a time. -/
inductive WritesTime (now : Clock) : DataType → String → Prop
  | timestamp : WritesTime now .timestamp (now.format "%Y-%m-%d %H:%M:%S")
  | date : WritesTime now .date (now.format "%Y-%m-%d")

/-- The value of a default for a column of the given type. In a column that holds a time, a call and
the words for the current time mean the present. -/
inductive IsDefault (now : Clock) (type : DataType) : List Token → String → Prop
  | call {ts : List Token} {value : String} (htime : WritesTime now type value)
      (h : ts.map Token.kind = [.ident, .leftParen, .rightParen]) : IsDefault now type ts value
  | current {t : Token} {value : String} (htime : WritesTime now type value)
      (h : IsCurrentTime t) : IsDefault now type [t] value
  | literal {t : Token} (h : IsLiteral t) : IsDefault now type [t] t.literal
  | typed {t u : Token} (ht : t.kind = .ident ∨ t.kind = .string) (hu : IsLiteral u)
      (hother : IsCurrentTime t → ∀ value, ¬ WritesTime now type value) :
      IsDefault now type [t, u] u.literal

inductive IsModifier (now : Clock) (type : DataType) : List Token → Modifier → Prop
  | primaryKey {ts : List Token} (h : ts.map Token.kind = [.keyword .primary, .keyword .key]) :
      IsModifier now type ts .primaryKey
  | notNull {ts : List Token} (h : ts.map Token.kind = [.keyword .not, .keyword .null]) :
      IsModifier now type ts .notNull
  | null {t : Token} (h : t.kind = .keyword .null) : IsModifier now type [t] .null
  | unique {t : Token} (h : t.kind = .keyword .unique) : IsModifier now type [t] .unique
  | default {t : Token} {ts : List Token} {value : String} (h : t.kind = .keyword .default)
      (hvalue : IsDefault now type ts value) : IsModifier now type (t :: ts) (.default value)

inductive IsField (now : Clock) : List Token → Field → Prop
  | mk {t : Token} {ts us : List Token} {name : String} {type : DataType} {ms : List Modifier}
      (hname : IsName t name) (htype : IsDataType ts type)
      (hms : InSequence (IsModifier now type) us ms) :
      IsField now (t :: (ts ++ us)) (Field.ofModifiers name type ms)

/-- The word IF in front of the name of a table is never the name itself. -/
inductive IsTableName : List Token → String → Prop
  | bare {t : Token} {name : String} (hname : IsName t name) (h : t.kind ≠ .keyword .if) :
      IsTableName [t] name
  | ifNotExists {ts : List Token} {t : Token} {name : String}
      (h : ts.map Token.kind = [.keyword .if, .keyword .not, .keyword .exists])
      (hname : IsName t name) : IsTableName (ts ++ [t]) name

def IsValue (t : Token) (value : String) : Prop := t.kind = .string ∧ t.literal = value

inductive IsDeclaration (now : Clock) : List Token → SchemaItem → Prop
  | table {front ts us : List Token} {left right : Token} {name : String} {fields : List Field}
      (hfront : front.map Token.kind = [.keyword .create, .keyword .table])
      (hname : IsTableName ts name) (hleft : left.kind = .leftParen)
      (hfields : CommaSeparated (IsField now) us fields) (hright : right.kind = .rightParen) :
      IsDeclaration now (front ++ (ts ++ left :: (us ++ [right]))) (.table ⟨name, fields⟩)
  | enumeration {front middle us : List Token} {t right : Token} {name : String}
      {values : List String} (hfront : front.map Token.kind = [.keyword .create, .keyword .type])
      (hname : IsName t name)
      (hmiddle : middle.map Token.kind = [.keyword .as, .keyword .enum, .leftParen])
      (hvalues : CommaSeparated (OneToken IsValue) us values) (hright : right.kind = .rightParen) :
      IsDeclaration now (front ++ t :: (middle ++ (us ++ [right]))) (.enumeration ⟨name, values⟩)

end Schema

/-- Declarations and semicolons in any order. -/
inductive IsSchema (now : Clock) : List Token → List SchemaItem → Prop
  | nil : IsSchema now [] []
  | semicolon {t : Token} {ts : List Token} {items : List SchemaItem} (h : t.kind = .semicolon)
      (hrest : IsSchema now ts items) : IsSchema now (t :: ts) items
  | declaration {ts us : List Token} {item : SchemaItem} {items : List SchemaItem}
      (h : Schema.IsDeclaration now ts item) (hrest : IsSchema now us items) :
      IsSchema now (ts ++ us) (item :: items)

section

/-! What is a schema at one time is one at any other, with other values of defaults only. -/

variable {now : Clock} (later : Clock) {ts : List Token}

namespace Schema

theorem WritesTime.exists_later {type : DataType} {value : String}
    (h : WritesTime now type value) : ∃ value', WritesTime later type value' := by
  cases h with
  | timestamp => exact ⟨_, .timestamp⟩
  | date => exact ⟨_, .date⟩

theorem IsDefault.exists_later {type : DataType} {value : String}
    (h : IsDefault now type ts value) : ∃ value', IsDefault later type ts value' := by
  cases h with
  | call htime hcall =>
    obtain ⟨value', htime⟩ := htime.exists_later later
    exact ⟨value', .call htime hcall⟩
  | current htime hcurrent =>
    obtain ⟨value', htime⟩ := htime.exists_later later
    exact ⟨value', .current htime hcurrent⟩
  | literal hliteral => exact ⟨_, .literal hliteral⟩
  | typed ht hu hother =>
    refine ⟨_, .typed ht hu fun hcurrent value' htime => ?_⟩
    obtain ⟨value, htime⟩ := htime.exists_later now
    exact hother hcurrent value htime

theorem IsModifier.exists_later {type : DataType} {m : Modifier} (h : IsModifier now type ts m) :
    ∃ m', IsModifier later type ts m' := by
  cases h with
  | primaryKey h => exact ⟨_, .primaryKey h⟩
  | notNull h => exact ⟨_, .notNull h⟩
  | null h => exact ⟨_, .null h⟩
  | unique h => exact ⟨_, .unique h⟩
  | default h hvalue =>
    obtain ⟨value', hvalue⟩ := hvalue.exists_later later
    exact ⟨_, .default h hvalue⟩

theorem IsField.exists_later {f : Field} (h : IsField now ts f) : ∃ f', IsField later ts f' := by
  obtain ⟨hname, htype, hms⟩ := h
  obtain ⟨ms, hms⟩ := hms.exists_imp fun _ _ hm => hm.exists_later later
  exact ⟨_, .mk hname htype hms⟩

theorem IsDeclaration.exists_later {item : SchemaItem} (h : IsDeclaration now ts item) :
    ∃ item', IsDeclaration later ts item' ∧ item'.name = item.name := by
  cases h with
  | table hfront hname hleft hfields hright =>
    obtain ⟨fields, hfields⟩ := hfields.exists_imp fun _ _ hf => hf.exists_later later
    exact ⟨_, .table hfront hname hleft hfields hright, rfl⟩
  | enumeration hfront hname hmiddle hvalues hright =>
    exact ⟨_, .enumeration hfront hname hmiddle hvalues hright, rfl⟩

end Schema

theorem IsSchema.exists_later {items : List SchemaItem} (h : IsSchema now ts items) :
    ∃ items', IsSchema later ts items' ∧
      items'.map SchemaItem.name = items.map SchemaItem.name := by
  induction h with
  | nil => exact ⟨[], .nil, rfl⟩
  | semicolon h _ ih =>
    obtain ⟨items', hitems, hnames⟩ := ih
    exact ⟨items', .semicolon h hitems, hnames⟩
  | declaration h _ ih =>
    obtain ⟨item', hitem, hname⟩ := h.exists_later later
    obtain ⟨items', hitems, hnames⟩ := ih
    refine ⟨item' :: items', .declaration hitem hitems, ?_⟩
    rw [List.map_cons, List.map_cons, hname, hnames]

end

/-- Modifiers taken one after the other make the column that has them. -/
theorem Field.foldl_modify (name : String) (type : DataType) (ms : List Modifier) :
    ms.foldl Field.modify (Field.plain name type) = Field.ofModifiers name type ms := by
  induction ms using List.reverseRecOn with
  | nil => rfl
  | append_singleton ms m ih =>
    rw [List.foldl_append, ih]
    cases m <;> simp [Field.modify, Field.ofModifiers, Modifier.value?]

end TypedQueries
