import Mathlib.Data.List.Forall2
import TypedQueries.Proofs.SchemaGrammar
import TypedQueries.Proofs.StatementTokens
import TypedQueries.Proofs.UnplacedSchema

/-!
Declarations written as text. Names stand in double quotes, values in single ones, and the modifiers
of a column in any order and as often as one likes. Every such text is read back as the declarations
that it was written for, whatever stands in the names and values.
-/

namespace TypedQueries

/-- A name in double quotes. There is no way to write a double quote inside of it. -/
def quoteName (name : String) : String := "\"" ++ name ++ "\""

def Modifier.render : Modifier → String
  | primaryKey => "PRIMARY KEY"
  | notNull => "NOT NULL"
  | null => "NULL"
  | unique => "UNIQUE"
  | default value => "DEFAULT " ++ quoteText value

/-- Modifiers that say of a column what is set in it and nothing else. NULL says nothing, and of
several defaults the last one counts. -/
structure Field.SaidBy (f : Field) (ms : List Modifier) : Prop where
  primaryKey : .primaryKey ∈ ms ↔ f.primaryKey = true
  notNull : .notNull ∈ ms ↔ f.notNull = true
  unique : .unique ∈ ms ↔ f.unique = true
  default? : (ms.filterMap Modifier.value?).getLast? = f.default?

def Field.renderWith (f : Field) (ms : List Modifier) : String :=
  quoteName f.name ++ " " ++ f.dataType.render ++ String.join (ms.map fun m => " " ++ m.render)

/-- A text for a column. -/
def Field.WrittenAs (f : Field) (text : String) : Prop := ∃ ms, f.SaidBy ms ∧ text = f.renderWith ms

/-- A text for a declaration. -/
inductive SchemaItem.WrittenAs : SchemaItem → String → Prop
  | table {t : Table} {texts : List String} (h : List.Forall₂ Field.WrittenAs t.fields texts) :
      WrittenAs (.table t)
        ("CREATE TABLE " ++ quoteName t.name ++ " (" ++ ", ".intercalate texts ++ ");")
  | enumeration (e : Enumeration) :
      WrittenAs (.enumeration e) ("CREATE TYPE " ++ quoteName e.name ++ " AS ENUM (" ++
        ", ".intercalate (e.values.map quoteText) ++ ");")

/-- A text for a list of declarations, with blanks between them or not. -/
inductive Schema.WrittenAs : List SchemaItem → String → Prop
  | nil {gap : String} (hgap : ∀ c ∈ gap.toList, Text.isBlank c = true) : WrittenAs [] gap
  | cons {gap text rest : String} {item : SchemaItem} {items : List SchemaItem}
      (hgap : ∀ c ∈ gap.toList, Text.isBlank c = true) (h : item.WrittenAs text)
      (hrest : WrittenAs items rest) : WrittenAs (item :: items) (gap ++ text ++ rest)

/-- What can stand in double quotes. -/
def IsQuotable (name : String) : Prop := '"' ∉ name.toList

/-- The types that have a written form of their own. Numbers are those of 32 bits. -/
def DataType.Writable : DataType → Prop
  | varchar length => ∀ n ∈ length, n < 2 ^ 32
  | decimal precision scale =>
    (∀ n ∈ precision, n < 2 ^ 32) ∧ (∀ n ∈ scale, n < 2 ^ 32) ∧ (precision = none → scale = none)
  | enum name => IsQuotable name
  | _ => True

def Field.Writable (f : Field) : Prop := IsQuotable f.name ∧ f.dataType.Writable

def SchemaItem.Writable : SchemaItem → Prop
  | table t => IsQuotable t.name ∧ t.fields ≠ [] ∧ ∀ f ∈ t.fields, f.Writable
  | enumeration e => IsQuotable e.name ∧ e.values ≠ []

/-! Tokens of the pieces. -/

theorem Lexeme.splitQuoted?_of_notMem {quote : Char} (hquote : quote ≠ '\'') {cs : List Char}
    (h : quote ∉ cs) (rest : List Char) :
    splitQuoted? quote (cs ++ quote :: rest) = some (cs ++ [quote], rest) := by
  induction cs with
  | nil => cases rest <;> simp [splitQuoted?, hquote]
  | cons c cs ih =>
    rw [List.mem_cons, not_or] at h
    simp [splitQuoted?_cons_of_ne (Ne.symm h.1), ih h.2]

/-- A name in double quotes is one token in front of anything. -/
theorem tokensOf_quoteName {name : String} (h : IsQuotable name) (rest : List Char) :
    tokensOf ((quoteName name).toList ++ rest) = stringToken name :: tokensOf rest := by
  have htext : (quoteName name).toList ++ rest = '"' :: (name.toList ++ '"' :: rest) := by
    simp [quoteName]
  have hsplit : Lexeme.splitLexeme '"' (name.toList ++ '"' :: rest) =
      (.string, '"' :: (name.toList ++ ['"']), rest) := by
    simp [Lexeme.splitLexeme, Lexeme.splitQuoted?_of_notMem (by decide) h]
  have htoken : Lexeme.tokenOf .string ('"' :: (name.toList ++ ['"'])) = stringToken name := by
    simp [Lexeme.tokenOf, Lexeme.token, Lexeme.literal, Lexeme.unquote, stringToken]
  rw [htext, tokensOf_of_solid (by decide) (by decide) (by decide), hsplit, htoken]

theorem lexesTo_quoteName {name : String} (h : IsQuotable name) :
    LexesTo (quoteName name).toList [stringToken name] := fun rest _ => tokensOf_quoteName h rest

theorem tokensOf_keyword_blank (k : Keyword) (rest : List Char) :
    tokensOf (k.text.toList ++ ' ' :: rest) = keywordToken k :: tokensOf rest := by
  rw [lexesTo_keyword k _ (by rfl), tokensOf_space]
  rfl

theorem tokensOf_blanks {gap : List Char} (h : ∀ c ∈ gap, Text.isBlank c = true)
    (rest : List Char) : tokensOf (gap ++ rest) = tokensOf rest := by
  induction gap with
  | nil => rfl
  | cons c gap ih =>
    rw [List.forall_mem_cons] at h
    rw [List.cons_append, tokensOf_of_isBlank h.1, ih h.2]

theorem Text.endsPiece_join {α : Type} (render : α → String) (as : List α) :
    endsPiece (String.join (as.map fun a => " " ++ render a)).toList = true := by
  cases as with
  | nil => rfl
  | cons a as => simp [endsPiece]

/-- A text that becomes tokens for the given value, wherever a piece may end behind it. -/
def ReadsAs {α : Type} (P : List Token → α → Prop) (text : List Char) (a : α) : Prop :=
  ∃ ts, LexesTo text ts ∧ P ts a

namespace ReadsAs

variable {α : Type} {P : List Token → α → Prop}

/-- Parts with a blank in front of each. -/
theorem inSequence {render : α → String} {as : List α}
    (h : ∀ a ∈ as, ReadsAs P (render a).toList a) :
    ReadsAs (InSequence P) (String.join (as.map fun a => " " ++ render a)).toList as := by
  induction as with
  | nil => exact ⟨[], lexesTo_nil, .nil⟩
  | cons a as ih =>
    rw [List.forall_mem_cons] at h
    obtain ⟨ts, hts, ha⟩ := h.1
    obtain ⟨us, hus, has⟩ := ih h.2
    refine ⟨ts ++ us, ?_, .cons ha has⟩
    simpa using (hts.append hus (Text.endsPiece_join render as)).blank

/-- Parts with a comma and a blank between them. -/
theorem commaSeparated {as : List α} {texts : List String}
    (h : List.Forall₂ (fun a text => ReadsAs P text.toList a) as texts) (hne : as ≠ []) :
    ReadsAs (CommaSeparated P) (", ".intercalate texts).toList as := by
  induction h with
  | nil => exact absurd rfl hne
  | @cons a text as texts ha hrest ih =>
    obtain ⟨ts, hts, ha⟩ := ha
    cases hrest with
    | nil => exact ⟨ts, by simpa using hts, .one ha⟩
    | cons hb hrest =>
      obtain ⟨us, hus, has⟩ := ih (by simp)
      refine ⟨ts ++ commaToken :: us, ?_, .cons ha rfl has⟩
      have hcomma : LexesTo (',' :: ' ' :: _) (commaToken :: us) :=
        (lexesTo_symbol (by decide)).space hus
      simpa [String.intercalate_cons_cons] using hts.append hcomma rfl

end ReadsAs

namespace Schema

/-- The name of a built-in type is a word in capitals and no keyword. -/
theorem tokensOf_typeName {name : String} {type : DataType}
    (h : DataType.builtin? name = some type) {rest : List Char} (hr : Text.endsWord rest = true) :
    tokensOf (name.toList ++ rest) = ⟨.ident, name, Span.point 0⟩ :: tokensOf rest := by
  have hname : Text.isWord name.toList = true ∧ Text.upper name = name ∧
      Keyword.ofText? name = none := by
    unfold DataType.builtin? at h
    split at h <;> cases h <;> decide
  rw [tokensOf_word hname.1 hr, String.ofList_toList, hname.2.1, wordToken, hname.2.2]

theorem readsAs_builtin {name : String} {type : DataType}
    (h : DataType.builtin? name = some type) : ReadsAs IsDataType name.toList type :=
  ⟨_, fun _ hr => tokensOf_typeName h (Text.endsWord_of_endsPiece hr), .builtin rfl (builtin?_eq_some_iff.1 h)⟩

def argumentsText (ns : List Nat) : List Char :=
  '(' :: ((", ".intercalate (ns.map toString)).toList ++ [')'])

theorem readsAs_arguments {ns : List Nat} (hne : ns ≠ []) (hns : ∀ n ∈ ns, n < 2 ^ 32) :
    ReadsAs AreArguments (argumentsText ns) ns := by
  have heach : List.Forall₂ (fun n text => ReadsAs (OneToken IsArgument) text.toList n) ns
      (ns.map toString) := by
    rw [List.forall₂_map_right_iff, List.forall₂_same]
    intro n hn
    exact ⟨_, lexesTo_number n, _, rfl, rfl, number_numberToken n, hns n hn⟩
  obtain ⟨ts, hts, hparts⟩ := ReadsAs.commaSeparated heach hne
  exact ⟨_, hts.parens, .mk rfl hparts rfl⟩

/-- A parenthesis ends the name of a type just as a blank does. -/
theorem readsAs_applied {name : String} {plain type : DataType}
    (h : DataType.builtin? name = some plain) {ns : List Nat} (hne : ns ≠ [])
    (hns : ∀ n ∈ ns, n < 2 ^ 32)
    (htype : ∀ {ts}, AreArguments ts ns → IsDataType (⟨.ident, name, Span.point 0⟩ :: ts) type) :
    ReadsAs IsDataType (name.toList ++ argumentsText ns) type := by
  obtain ⟨ts, hts, harguments⟩ := readsAs_arguments hne hns
  refine ⟨_, fun rest hr => ?_, htype harguments⟩
  rw [List.append_assoc, tokensOf_typeName h (by rfl), hts rest hr, List.cons_append]

theorem toList_varchar (n : Nat) :
    (DataType.varchar (some n)).render.toList = "VARCHAR".toList ++ argumentsText [n] := by
  have hrender : (DataType.varchar (some n)).render = "VARCHAR(" ++ toString n ++ ")" := rfl
  simp [hrender, argumentsText]

theorem toList_decimal (n : Nat) :
    (DataType.decimal (some n) none).render.toList = "DECIMAL".toList ++ argumentsText [n] := by
  have hrender : (DataType.decimal (some n) none).render = "DECIMAL(" ++ toString n ++ ")" := rfl
  simp [hrender, argumentsText]

theorem toList_scaled (n k : Nat) :
    (DataType.decimal (some n) (some k)).render.toList =
      "DECIMAL".toList ++ argumentsText [n, k] := by
  have hrender : (DataType.decimal (some n) (some k)).render =
      "DECIMAL(" ++ toString n ++ ", " ++ toString k ++ ")" := rfl
  simp [hrender, argumentsText]

theorem readsAs_dataType {type : DataType} (h : type.Writable) :
    ReadsAs IsDataType type.render.toList type := by
  cases type with
  | uuid | text | int | bigint | smallint | boolean | timestamp | date =>
    exact readsAs_builtin rfl
  | enum name => exact ⟨_, lexesTo_quoteName h, .enum rfl⟩
  | varchar length =>
    cases length with
    | none => exact readsAs_builtin rfl
    | some n =>
      have hn : ∀ m ∈ [n], m < 2 ^ 32 := by simpa using h n rfl
      rw [toList_varchar]
      exact readsAs_applied rfl (by simp) hn fun h => .varchar rfl rfl h
  | decimal precision scale =>
    obtain ⟨hprecision, hscale, hnone⟩ := h
    cases precision with
    | none =>
      obtain rfl := hnone rfl
      exact readsAs_builtin rfl
    | some n =>
      have hn := hprecision n rfl
      cases scale with
      | none =>
        have hns : ∀ m ∈ [n], m < 2 ^ 32 := by simpa using hn
        rw [toList_decimal]
        exact readsAs_applied rfl (by simp) hns fun h => .decimal rfl (.inl rfl) h
      | some k =>
        have hns : ∀ m ∈ [n, k], m < 2 ^ 32 := by simpa using ⟨hn, hscale k rfl⟩
        rw [toList_scaled]
        exact readsAs_applied rfl (by simp) hns fun h => .scaled rfl (.inl rfl) h

theorem readsAs_modifier (now : Clock) (type : DataType) (m : Modifier) :
    ReadsAs (IsModifier now type) m.render.toList m := by
  cases m with
  | primaryKey => exact ⟨_, (lexesTo_keyword .primary).space (lexesTo_keyword .key), .primaryKey rfl⟩
  | notNull => exact ⟨_, (lexesTo_keyword .not).space (lexesTo_keyword .null), .notNull rfl⟩
  | null => exact ⟨_, lexesTo_keyword .null, .null rfl⟩
  | unique => exact ⟨_, lexesTo_keyword .unique, .unique rfl⟩
  | default value =>
    have htext : (Modifier.default value).render.toList =
        Keyword.default.text.toList ++ ' ' :: (quoteText value).toList := by
      simp [Modifier.render, Keyword.text]
    rw [htext]
    exact ⟨_, (lexesTo_keyword .default).space (lexesTo_quoteText value),
      .default rfl (.literal (.inl rfl))⟩

end Schema

/-- The modifiers say all that a column holds besides its name and its type. -/
theorem Field.SaidBy.ofModifiers_eq {f : Field} {ms : List Modifier} (h : f.SaidBy ms) :
    Field.ofModifiers f.name f.dataType ms = f := by
  have hflag {m : Modifier} {b : Bool} (hm : m ∈ ms ↔ b = true) : decide (m ∈ ms) = b :=
    Bool.eq_iff_iff.2 (decide_eq_true_iff.trans hm)
  rw [Field.ofModifiers, hflag h.notNull, hflag h.primaryKey, hflag h.unique, h.default?]

namespace Schema

theorem readsAs_field (now : Clock) {f : Field} (hf : f.Writable) {text : String}
    (h : f.WrittenAs text) :
    ReadsAs (IsField now) text.toList f := by
  obtain ⟨ms, hms, rfl⟩ := h
  obtain ⟨ts, hts, htype⟩ := readsAs_dataType hf.2
  obtain ⟨us, hus, hmodifiers⟩ :=
    ReadsAs.inSequence fun m (_ : m ∈ ms) => readsAs_modifier now f.dataType m
  have hname : IsName (stringToken f.name) f.name := .quoted rfl
  have hfield := IsField.mk hname htype hmodifiers
  rw [hms.ofModifiers_eq] at hfield
  refine ⟨_, ?_, hfield⟩
  simpa [Field.renderWith] using (lexesTo_quoteName hf.1).space
    (hts.append hus (Text.endsPiece_join Modifier.render ms))

/-- What stands in parentheses in front of a semicolon ends there, whatever follows. -/
theorem tokensOf_body {text : List Char} {ts : List Token} (h : LexesTo text ts)
    (rest : List Char) :
    tokensOf ('(' :: (text ++ ')' :: ';' :: rest)) =
      symbolToken .leftParen '(' :: (ts ++ [symbolToken .rightParen ')']) ++
        semicolonToken :: tokensOf rest := by
  have hsemicolon : tokensOf (';' :: rest) = semicolonToken :: tokensOf rest :=
    tokensOf_symbol (by decide) rest
  have hbody := h.parens (';' :: rest) rfl
  rw [hsemicolon] at hbody
  simpa using hbody

/-- A text that becomes the tokens of a declaration and a semicolon, whatever follows. -/
def Declares (now : Clock) (text : String) (item : SchemaItem) : Prop :=
  ∃ ts, IsDeclaration now ts item ∧
    ∀ rest, tokensOf (text.toList ++ rest) = ts ++ semicolonToken :: tokensOf rest

theorem declares_table (now : Clock) {t : Table} {texts : List String}
    (hw : (SchemaItem.table t).Writable) (h : List.Forall₂ Field.WrittenAs t.fields texts) :
    Declares now ("CREATE TABLE " ++ quoteName t.name ++ " (" ++ ", ".intercalate texts ++ ");")
      (.table t) := by
  obtain ⟨hname, hne, hfields⟩ := hw
  have heach : List.Forall₂ (fun f text => ReadsAs (IsField now) text.toList f) t.fields texts :=
    ((List.forall₂_and_left _ _).2 ⟨hfields, h⟩).imp fun _ _ h => readsAs_field now h.1 h.2
  obtain ⟨us, hus, hfields⟩ := ReadsAs.commaSeparated heach hne
  have hfront : [keywordToken .create, keywordToken .table].map Token.kind =
      [.keyword .create, .keyword .table] := rfl
  have htable : IsTableName [stringToken t.name] t.name :=
    .bare (.quoted rfl) (by simp [stringToken])
  have hleft : (symbolToken .leftParen '(').kind = .leftParen := rfl
  have hright : (symbolToken .rightParen ')').kind = .rightParen := rfl
  refine ⟨_, .table hfront htable hleft hfields hright, fun rest => ?_⟩
  have htext : ("CREATE TABLE " ++ quoteName t.name ++ " (" ++ ", ".intercalate texts ++
      ");").toList ++ rest = Keyword.create.text.toList ++ ' ' :: (Keyword.table.text.toList ++
      ' ' :: ((quoteName t.name).toList ++
      ' ' :: '(' :: ((", ".intercalate texts).toList ++ ')' :: ';' :: rest))) := by
    simp [Keyword.text]
  rw [htext, tokensOf_keyword_blank, tokensOf_keyword_blank, tokensOf_quoteName hname,
    tokensOf_space, tokensOf_body hus]
  rfl

theorem declares_enumeration (now : Clock) {e : Enumeration}
    (hw : (SchemaItem.enumeration e).Writable) :
    Declares now ("CREATE TYPE " ++ quoteName e.name ++ " AS ENUM (" ++
      ", ".intercalate (e.values.map quoteText) ++ ");") (.enumeration e) := by
  obtain ⟨hname, hne⟩ := hw
  have heach : List.Forall₂ (fun v text => ReadsAs (OneToken IsValue) text.toList v) e.values
      (e.values.map quoteText) := by
    rw [List.forall₂_map_right_iff, List.forall₂_same]
    intro v _
    exact ⟨_, lexesTo_quoteText v, _, rfl, rfl, rfl⟩
  obtain ⟨us, hus, hvalues⟩ := ReadsAs.commaSeparated heach hne
  have hfront : [keywordToken .create, keywordToken .type].map Token.kind =
      [.keyword .create, .keyword .type] := rfl
  have henum : IsName (stringToken e.name) e.name := .quoted rfl
  have hmiddle : [keywordToken .as, keywordToken .enum, symbolToken .leftParen '('].map
      Token.kind = [.keyword .as, .keyword .enum, .leftParen] := rfl
  have hright : (symbolToken .rightParen ')').kind = .rightParen := rfl
  refine ⟨_, .enumeration hfront henum hmiddle hvalues hright, fun rest => ?_⟩
  have htext : ("CREATE TYPE " ++ quoteName e.name ++ " AS ENUM (" ++
      ", ".intercalate (e.values.map quoteText) ++ ");").toList ++ rest =
      Keyword.create.text.toList ++ ' ' :: (Keyword.type.text.toList ++
      ' ' :: ((quoteName e.name).toList ++ ' ' :: (Keyword.as.text.toList ++
      ' ' :: (Keyword.enum.text.toList ++
      ' ' :: '(' :: ((", ".intercalate (e.values.map quoteText)).toList ++
      ')' :: ';' :: rest))))) := by
    simp [Keyword.text]
  rw [htext, tokensOf_keyword_blank, tokensOf_keyword_blank, tokensOf_quoteName hname,
    tokensOf_space, tokensOf_keyword_blank, tokensOf_keyword_blank, tokensOf_body hus]
  rfl

theorem declares_of_writtenAs (now : Clock) {item : SchemaItem} (hw : item.Writable)
    {text : String} (h : item.WrittenAs text) : Declares now text item := by
  cases h with
  | table h => exact declares_table now hw h
  | enumeration e => exact declares_enumeration now hw

/-- Item by item, the tokens of a written schema are those of its declarations. -/
theorem isSchema_of_writtenAs (now : Clock) {items : List SchemaItem} {text : String}
    (h : WrittenAs items text) (hw : ∀ item ∈ items, item.Writable) :
    IsSchema now (tokensOf text.toList) items := by
  induction h with
  | @nil gap hgap =>
    have htokens : tokensOf gap.toList = [] := by simpa using tokensOf_blanks hgap []
    rw [htokens]
    exact .nil
  | @cons gap text rest item items hgap hitem _ ih =>
    rw [List.forall_mem_cons] at hw
    obtain ⟨ts, hts, htokens⟩ := declares_of_writtenAs now hw.1 hitem
    rw [String.toList_append, String.toList_append, List.append_assoc, tokensOf_blanks hgap,
      htokens]
    exact .declaration hts (.semicolon rfl (ih hw.2))

end Schema

/-- A schema is read from the tokens of its text. -/
theorem parseSchema_eq_ok_iff_tokensOf {now : Clock} {source : String} {items : List SchemaItem} :
    parseSchema now source = .ok items ↔
      Schema.takeItems now ⟨tokensOf source.toList, 0⟩ = .ok items := by
  rw [← unplaced_ofSource, Schema.takeItems_unplaced, unplacedResult_eq_ok]
  simp [parseSchema]

/-- One way to say what a column holds. -/
def Field.modifiers (f : Field) : List Modifier :=
  (if f.primaryKey then [.primaryKey] else []) ++ (if f.notNull then [.notNull] else []) ++
    (if f.unique then [.unique] else []) ++ f.default?.toList.map .default

theorem Field.saidBy_modifiers (f : Field) : f.SaidBy f.modifiers where
  primaryKey := by simp [Field.modifiers]
  notNull := by simp [Field.modifiers]
  unique := by simp [Field.modifiers]
  default? := by
    rw [Field.modifiers]
    cases f.default? <;> cases f.primaryKey <;> cases f.notNull <;> cases f.unique <;> rfl

theorem SchemaItem.exists_writtenAs (item : SchemaItem) : ∃ text, item.WrittenAs text := by
  cases item with
  | table t =>
    have heach : List.Forall₂ Field.WrittenAs t.fields
        (t.fields.map fun f => f.renderWith f.modifiers) := by
      rw [List.forall₂_map_right_iff, List.forall₂_same]
      exact fun f _ => ⟨f.modifiers, f.saidBy_modifiers, rfl⟩
    exact ⟨_, .table heach⟩
  | enumeration e => exact ⟨_, .enumeration e⟩

theorem Schema.exists_writtenAs (items : List SchemaItem) :
    ∃ text, Schema.WrittenAs items text := by
  induction items with
  | nil => exact ⟨"", .nil (by simp)⟩
  | cons item items ih =>
    obtain ⟨text, htext⟩ := item.exists_writtenAs
    obtain ⟨rest, hrest⟩ := ih
    exact ⟨"" ++ text ++ rest, .cons (by simp) htext hrest⟩

/-- Declarations whose names have no double quotes can be written, and each of their written forms
is read back as just these declarations. -/
theorem Schema.parseSchema_of_writtenAs (now : Clock) {items : List SchemaItem}
    (hw : ∀ item ∈ items, item.Writable) :
    (∃ text, Schema.WrittenAs items text) ∧
      ∀ text, Schema.WrittenAs items text → parseSchema now text = .ok items := by
  refine ⟨Schema.exists_writtenAs items, fun text htext => ?_⟩
  rw [parseSchema_eq_ok_iff_tokensOf]
  exact Schema.takeItems_of_isSchema (Schema.isSchema_of_writtenAs now htext hw) 0

/-- A table with commas, parentheses and quotes in its names and values. -/
def Schema.lineItems : Table where
  name := "Line Items"
  fields :=
    [⟨"a'b", .enum "tax, (rate)", true, some "it's", true, false⟩,
      ⟨"price); --", .decimal (some 10) (some 2), false, some "0, 1)", false, true⟩]

def Schema.pricedItems : List SchemaItem :=
  [.enumeration ⟨"tax, (rate)", ["it's", ""]⟩, .table Schema.lineItems]

def Schema.pricedText : String :=
  "CREATE TYPE \"tax, (rate)\" AS ENUM ('it''s', '');\n" ++
  "CREATE TABLE \"Line Items\" (\"a'b\" \"tax, (rate)\" DEFAULT 'x' NOT NULL PRIMARY KEY NOT NULL " ++
  "DEFAULT 'it''s', \"price); --\" DECIMAL(10, 2) NULL DEFAULT '0, 1)' UNIQUE NULL);"

theorem Schema.parseSchema_pricedText :
    (∀ item ∈ Schema.pricedItems, item.Writable) ∧
      Schema.WrittenAs Schema.pricedItems Schema.pricedText ∧
      parseSchema (⟨2024, 1, 1, 0, 0, 0⟩ : Moment) Schema.pricedText = .ok Schema.pricedItems := by
  have hw : ∀ item ∈ Schema.pricedItems, item.Writable := by
    simp [Schema.pricedItems, Schema.lineItems, SchemaItem.Writable, Field.Writable,
      DataType.Writable, IsQuotable]
  have hfields : List.Forall₂ Field.WrittenAs Schema.lineItems.fields _ :=
    .cons ⟨[.default "x", .notNull, .primaryKey, .notNull, .default "it's"], by
        constructor <;> decide, rfl⟩ <|
      .cons ⟨[.null, .default "0, 1)", .unique, .null], by constructor <;> decide, rfl⟩ .nil
  have hempty : ∀ c ∈ "".toList, Text.isBlank c = true := by simp
  have hline : ∀ c ∈ "\n".toList, Text.isBlank c = true := by
    have hnewline : Text.isBlank '\n' = true := by decide
    simpa using hnewline
  have hwritten : Schema.WrittenAs Schema.pricedItems Schema.pricedText :=
    (congrArg (Schema.WrittenAs _) (by decide +kernel)).mp
      (.cons hempty (.enumeration _) (.cons hline (.table hfields) (.nil hempty)))
  exact ⟨hw, hwritten, (Schema.parseSchema_of_writtenAs _ hw).2 _ hwritten⟩

end TypedQueries
