import TypedQueries.Proofs.DensePositions
import TypedQueries.Proofs.InsertTuples
import TypedQueries.Proofs.TokenSpans
import TypedQueries.Proofs.WrittenNames

/-!
What holds of every statement that was read, whatever was passed over or dropped on the way: its
positions and integers are in range, its columns are words without a meaning of their own, and its
values belong to their columns.
-/

namespace TypedQueries

/-- The names of columns, wherever a statement has them. -/
def Statement.columnNames : Statement → List String
  | select s => s.columns ++ s.conditions.map Condition.column ++
      s.conditions.map fun c => c.bind.column
  | insert i => i.columns ++ i.values.map Bind.column ++ i.returning

/-- A word in capitals that queries give no meaning to. -/
def IsColumnName (name : String) : Prop :=
  (∃ word, Text.isWord word = true ∧ name = Text.upper (String.ofList word)) ∧
    isReserved name = false

/-- Values in full tuples, one or more, each bound to the column of its place. -/
structure Insert.Accepted (i : Insert) : Prop where
  columns : i.columns ≠ []
  values : 0 < i.values.length
  full : i.columns.length ∣ i.values.length
  column : ∀ j < i.values.length, i.values[j]?.map Bind.column = i.columns[j % i.columns.length]?
  returning : ∀ name ∈ i.returning, name = "*" ∨ IsColumnName name

/-- What is known of a statement that was read from a text of `length` bytes. Placeholders without
a number are counted, and only a text of as many bytes counts beyond 64 bits. -/
structure Statement.Accepted (length : Nat) (s : Statement) : Prop where
  positions : ∀ p ∈ s.placeholders, 1 ≤ p ∧ (length < 2 ^ 64 → p < 2 ^ 64)
  integers : ∀ b ∈ s.binds, ∀ n, b.value = .literal (.integer n) → 0 ≤ n ∧ n < 2 ^ 63
  columns : ∀ name ∈ s.columnNames, isReserved name = false
  select : ∀ q, s = .select q → ∀ c ∈ q.conditions,
    c.bind.column = c.column ∧ c.bind.value.isOperand = true
  insert : ∀ i, s = .insert i → i.Accepted

/-! Positions of placeholders without a number. Each takes a token, so the last of these positions
and the tokens that are left never get more. -/

/-- A position that fits 64 bits or is not beyond `n`. -/
def BindValue.UpTo (n : Nat) : BindValue → Prop
  | .param position => position < 2 ^ 64 ∨ position ≤ n
  | .literal _ => True

theorem BindValue.UpTo.mono {m n : Nat} {v : BindValue} (h : v.UpTo m) (hle : m ≤ n) :
    v.UpTo n := by
  cases v with
  | param position => exact h.imp_right (Nat.le_trans · hle)
  | literal _ => trivial

namespace Query

open Cursor

variable {bare bare' : Nat} {c d : Cursor}

theorem takePosition_upTo {position : Nat} (hk : c.kind = .dollar)
    (h : takePosition bare c = .ok (position, bare', d)) :
    (BindValue.param position).UpTo (bare + c.size) ∧ bare' + d.size ≤ bare + c.size := by
  have hlt : c.advance.size < c.size := size_advance_lt (by simp [hk])
  have hle := c.advance.size_advance_le
  unfold takePosition at h
  split at h
  · dsimp only at h
    split at h
    · cases h
    · split at h
      · rename_i hfits
        cases h
        exact ⟨Or.inl hfits, by omega⟩
      · cases h
  · cases h
    exact ⟨Or.inr (by omega), by omega⟩

theorem takeOperand_upTo {v : BindValue} (h : takeOperand bare c = .ok (some (v, bare', d))) :
    v.UpTo (bare + c.size) ∧ bare' + d.size ≤ bare + c.size := by
  have hsize := size_takeOperand h
  unfold takeOperand at h
  split at h
  · rename_i hk
    obtain ⟨⟨position, bare₁, c₁⟩, h₁, h⟩ := bind_eq_ok.1 h
    cases h
    exact takePosition_upTo hk h₁
  · cases h
    exact ⟨trivial, by omega⟩
  · obtain ⟨⟨n, c₁⟩, h₁, h⟩ := bind_eq_ok.1 h
    cases h
    exact ⟨trivial, by omega⟩
  · cases h

theorem takeCondition_upTo {condition? : Option Condition}
    (h : takeCondition bare c = .ok (condition?, bare', d)) :
    (∀ condition ∈ condition?, condition.bind.value.UpTo (bare + c.size)) ∧
      bare' + d.size ≤ bare + c.size := by
  have hparts : (takeParts c).2.size ≤ c.size := (takeParts_suffix c).length_le
  rw [takeCondition_eq] at h
  generalize takeParts c = p at h hparts
  obtain ⟨⟨chain, column, comparison⟩, c₁⟩ := p
  dsimp only at h hparts
  split at h
  · cases h
  · rename_i value bare₁ c₂ hoperand
    cases h
    obtain ⟨hvalue, hle⟩ := takeOperand_upTo hoperand
    refine ⟨?_, by omega⟩
    intro condition hcondition
    obtain ⟨name, -, hcondition⟩ := Option.bind_eq_some_iff.1 hcondition
    obtain ⟨op, -, hcondition⟩ := Option.bind_eq_some_iff.1 hcondition
    cases hcondition
    exact hvalue.mono (by omega)
  · cases h
    refine ⟨nofun, ?_⟩
    have hadvance := c₁.size_advance_le
    split <;> omega

theorem takeConditions_upTo {conditions : List Condition}
    (h : takeConditions bare c = .ok (conditions, d)) :
    ∀ condition ∈ conditions, condition.bind.value.UpTo (bare + c.size) := by
  fun_induction takeConditions bare c generalizing d conditions with
  | case1 bare c hend =>
    cases h
    simp
  | case2 => cases h
  | case3 bare c hend condition? bare₁ c₁ h₁ ih =>
    obtain ⟨⟨conditions', d'⟩, h₂, h⟩ := bind_eq_ok.1 h
    cases h
    obtain ⟨hcondition, hle⟩ := takeCondition_upTo h₁
    intro condition hmem
    rcases List.mem_append.1 hmem with hmem | hmem
    · exact hcondition condition (by simpa using hmem)
    · exact (ih h₂ condition hmem).mono hle

theorem takeValue_upTo {v : BindValue} (h : takeValue bare c = .ok (v, bare', d)) :
    v.UpTo (bare + c.size) ∧ bare' + d.size ≤ bare + c.size := by
  have hle := c.size_advance_le
  obtain ⟨taken?, h₁, h⟩ := bind_eq_ok.1 h
  cases taken? with
  | some taken =>
    cases h
    exact takeOperand_upTo h₁
  | none =>
    dsimp only at h
    split at h <;> cases h <;> exact ⟨trivial, by omega⟩

theorem takeValues_upTo {values : List BindValue} (h : takeValues bare c = .ok (values, bare', d)) :
    (∀ v ∈ values, v.UpTo (bare + c.size)) ∧ bare' + d.size ≤ bare + c.size := by
  fun_induction takeValues bare c generalizing d bare' values with
  | case1 => cases h
  | case2 bare c value bare₁ c₁ h₁ hk ih =>
    obtain ⟨⟨values', bare₂, c₂⟩, h₂, h⟩ := bind_eq_ok.1 h
    cases h
    obtain ⟨hvalue, hle⟩ := takeValue_upTo h₁
    obtain ⟨hvalues, hle'⟩ := ih h₂
    have hcomma := c₁.size_advance_le
    exact ⟨List.forall_mem_cons.2 ⟨hvalue, fun v hv => (hvalues v hv).mono (by omega)⟩, by omega⟩
  | case3 bare c value bare₁ c₁ h₁ hk =>
    cases h
    obtain ⟨hvalue, hle⟩ := takeValue_upTo h₁
    exact ⟨by simpa using hvalue, hle⟩

theorem takeTuple_upTo {columns : List String} {binds : List Bind}
    (h : takeTuple columns bare c = .ok (binds, bare', d)) :
    (∀ b ∈ binds, b.value.UpTo (bare + c.size)) ∧ bare' + d.size ≤ bare + c.size := by
  obtain ⟨c₁, h₁, h⟩ := bind_eq_ok.1 h
  obtain ⟨⟨values, bare₁, c₂⟩, h₂, h⟩ := bind_eq_ok.1 h
  obtain ⟨c₃, h₃, h⟩ := bind_eq_ok.1 h
  have hleft := size_of_expect h₁
  have hright := size_of_expect h₃
  obtain ⟨hvalues, hle⟩ := takeValues_upTo h₂
  split at h
  · rename_i hlength
    cases h
    refine ⟨?_, by omega⟩
    intro b hb
    have hvalue : b.value ∈ values := map_value_zipWith hlength ▸ List.mem_map_of_mem hb
    exact (hvalues b.value hvalue).mono (by omega)
  · cases h

theorem takeTuples_upTo {columns : List String} {binds : List Bind}
    (h : takeTuples columns bare c = .ok (binds, d)) :
    ∀ b ∈ binds, b.value.UpTo (bare + c.size) := by
  fun_induction takeTuples columns bare c generalizing d binds with
  | case1 => cases h
  | case2 bare c binds₁ bare₁ c₁ h₁ hk ih =>
    obtain ⟨⟨binds₂, c₂⟩, h₂, h⟩ := bind_eq_ok.1 h
    cases h
    obtain ⟨hbinds, hle⟩ := takeTuple_upTo h₁
    have hcomma := c₁.size_advance_le
    intro b hb
    rcases List.mem_append.1 hb with hb | hb
    · exact hbinds b hb
    · exact (ih h₂ b hb).mono (by omega)
  | case3 bare c binds₁ bare₁ c₁ h₁ hk =>
    cases h
    exact (takeTuple_upTo h₁).1

theorem size_takeTable {name : String} (h : takeTable c = .ok (name, d)) : d.size ≤ c.size := by
  obtain ⟨t, -, rfl⟩ := exists_of_takeTable h
  exact Nat.le_succ _

theorem takeSelect_upTo {s : Select} (h : takeSelect c = .ok (s, d)) :
    ∀ condition ∈ s.conditions, condition.bind.value.UpTo c.size := by
  obtain ⟨-, -, c₁, c₂, c₃, c₄, h₁, h₂, h₃, -, -⟩ := takeSelect_eq_ok.1 h
  have hlist : (takeSelectList (c.eatKeyword .distinct).2).2.size ≤ c.size :=
    (List.dropWhile_suffix _).length_le.trans (c.size_eat_le _)
  have hfrom := size_of_expect h₁
  have htable := size_takeTable h₂
  unfold takeWhere at h₃
  split at h₃
  · have hwhere := c₂.size_advance_le
    exact fun condition hmem => (takeConditions_upTo h₃ condition hmem).mono (by omega)
  · have hnil : s.conditions = [] := congrArg Prod.fst (Except.ok.inj h₃).symm
    simp [hnil]

theorem takeInsert_upTo {i : Insert} (h : takeInsert c = .ok (i, d)) :
    ∀ b ∈ i.values, b.value.UpTo c.size := by
  obtain ⟨⟨conflict, c₁⟩, h₁, h⟩ := bind_eq_ok.1 h
  obtain ⟨c₂, h₂, h⟩ := bind_eq_ok.1 h
  obtain ⟨⟨table, c₃⟩, h₃, h⟩ := bind_eq_ok.1 h
  obtain ⟨c₄, h₄, h⟩ := bind_eq_ok.1 h
  obtain ⟨⟨columns, c₅⟩, h₅, h⟩ := bind_eq_ok.1 h
  obtain ⟨c₆, h₆, h⟩ := bind_eq_ok.1 h
  obtain ⟨c₇, h₇, h⟩ := bind_eq_ok.1 h
  obtain ⟨⟨values, c₈⟩, h₈, h⟩ := bind_eq_ok.1 h
  obtain ⟨⟨returning, c₉⟩, h₉, h⟩ := bind_eq_ok.1 h
  cases h
  have hbefore : c₇.size ≤ c.size :=
    calc c₇.size ≤ c₆.size := size_of_expect h₇
      _ ≤ c₅.size := size_of_expect h₆
      _ ≤ c₄.size := size_commaSeparated h₅
      _ ≤ c₃.size := size_of_expect h₄
      _ ≤ c₂.size := size_takeTable h₃
      _ ≤ c₁.size := size_of_expect h₂
      _ ≤ c.size := (takeConflict_suffix h₁).length_le
  exact fun b hb => (takeTuples_upTo h₈ b hb).mono (by omega)

theorem parseTokens_upTo {s : Statement} (h : parseTokens c = .ok s) :
    ∀ b ∈ s.binds, b.value.UpTo c.size := by
  have hadvance := c.size_advance_le
  obtain ⟨⟨statement, e⟩, h₁, h⟩ := bind_eq_ok.1 h
  dsimp only at h
  split at h <;> cases h
  unfold takeStatement at h₁
  split at h₁
  · obtain ⟨⟨select, d⟩, h₂, h₁⟩ := bind_eq_ok.1 h₁
    cases h₁
    intro b hb
    obtain ⟨condition, hmem, rfl⟩ := List.mem_map.1 hb
    exact (takeSelect_upTo h₂ condition hmem).mono hadvance
  · obtain ⟨⟨insert, d⟩, h₂, h₁⟩ := bind_eq_ok.1 h₁
    cases h₁
    exact fun b hb => (takeInsert_upTo h₂ b hb).mono hadvance
  · cases h₁

end Query

/-- A lexeme has a character at least. -/
theorem Lexeme.length_ofText_le (cs : List Char) : (ofText cs).1.length ≤ cs.length := by
  fun_induction ofText cs with
  | case1 => exact Nat.zero_le _
  | case2 cs gap c rest hgap piece lexemes last hrest ih =>
    have htext := congrArg List.length (splitGap_append cs)
    have hlexeme := splitLexeme_length c rest
    rw [hrest] at ih
    simp only [hgap, List.length_append, List.length_cons] at htext ⊢
    dsimp only [piece] at ih
    omega

theorem Text.length_le_byteLength (cs : List Char) : cs.length ≤ byteLength cs := by
  induction cs with
  | nil => exact Nat.le_refl _
  | cons c cs ih =>
    have hpos := c.utf8Size_pos
    rw [List.length_cons, byteLength_cons]
    omega

/-- A text has a byte for each of its tokens. -/
theorem length_tokensOf_le (source : String) :
    (tokensOf source.toList).length ≤ source.utf8ByteSize := by
  rw [tokensOf, List.length_map, ← Text.byteLength_toList]
  exact (Lexeme.length_ofText_le _).trans (Text.length_le_byteLength _)

theorem isColumnName_of_column? {cs : List Char} {t : Token} {name : String} (ht : t ∈ tokensOf cs)
    (h : Query.column? t = some name) : IsColumnName name := by
  obtain ⟨l, hl, rfl⟩ := List.mem_map.1 ht
  unfold Query.column? at h
  split at h
  · rename_i hcolumn
    obtain ⟨hword, htoken⟩ := Lexeme.isWord_of_isColumnWord hl hcolumn
    rw [htoken, isColumnWord_wordToken, Bool.not_eq_true'] at hcolumn
    rw [htoken, literal_wordToken, Option.some.injEq] at h
    subst h
    exact ⟨⟨l.raw, hword, rfl⟩, hcolumn⟩
  · cases h

theorem isColumnName_of_item? {cs : List Char} {t : Token} {name : String} (ht : t ∈ tokensOf cs)
    (h : Query.item? t = some name) : name = "*" ∨ IsColumnName name :=
  (item?_cases ht h).imp_right (isColumnName_of_column? ht)

theorem isReserved_of_item {name : String} (h : name = "*" ∨ IsColumnName name) :
    isReserved name = false := by
  rcases h with rfl | h
  · decide
  · exact h.2

section ReadFrom

variable {cs : List Char}

theorem Insert.ReadFrom.accepted {i : Insert} (h : i.ReadFrom (tokensOf cs)) : i.Accepted := by
  obtain ⟨tuples, hne, hflatten, htuples⟩ := h.tuples
  obtain ⟨hfull, hcolumn⟩ := column_of_flatten htuples
  rw [hflatten] at hfull hcolumn
  refine ⟨h.columns_ne, ?_, hfull, hcolumn, ?_⟩
  · obtain ⟨t, more, rfl⟩ := List.exists_cons_of_ne_nil hne
    have hwidth : t.length = i.columns.length := by rw [← htuples t (by simp), List.length_map]
    have hpos := List.length_pos_iff.2 h.columns_ne
    rw [← hflatten, List.flatten_cons, List.length_append]
    omega
  · intro name hname
    obtain ⟨t, ht, hitem⟩ := h.returning name hname
    exact isColumnName_of_item? ht hitem

theorem Select.ReadFrom.isReserved_eq_false {s : Select} (h : s.ReadFrom (tokensOf cs)) :
    ∀ name ∈ (Statement.select s).columnNames, isReserved name = false := by
  have hcondition {c : Condition} (hc : c ∈ s.conditions) : isReserved c.column = false := by
    obtain ⟨t, ht, hcolumn⟩ := (h.conditions c hc).column
    exact (isColumnName_of_column? ht hcolumn).2
  simp only [Statement.columnNames, List.forall_mem_append, List.forall_mem_map]
  refine ⟨⟨?_, fun c hc => hcondition hc⟩, fun c hc => ?_⟩
  · intro name hname
    obtain ⟨t, ht, hitem⟩ := h.columns name hname
    exact isReserved_of_item (isColumnName_of_item? ht hitem)
  · rw [(h.conditions c hc).bind]
    exact hcondition hc

theorem Insert.ReadFrom.isReserved_eq_false {i : Insert} (h : i.ReadFrom (tokensOf cs)) :
    ∀ name ∈ (Statement.insert i).columnNames, isReserved name = false := by
  have hcolumns : ∀ name ∈ i.columns, isReserved name = false := by
    intro name hname
    obtain ⟨t, ht, hcolumn⟩ := h.columns name hname
    exact (isColumnName_of_column? ht hcolumn).2
  have haccepted := h.accepted
  simp only [Statement.columnNames, List.forall_mem_append, List.forall_mem_map]
  refine ⟨⟨hcolumns, ?_⟩, fun name hname => isReserved_of_item (haccepted.returning name hname)⟩
  intro b hb
  -- each value is bound to a column of the list
  obtain ⟨j, hj, rfl⟩ := List.mem_iff_getElem.1 hb
  have hcolumn := haccepted.column j hj
  rw [List.getElem?_eq_getElem hj, Option.map_some] at hcolumn
  exact hcolumns _ (List.mem_of_getElem? hcolumn.symm)

end ReadFrom

/-- Every statement that a text is read as has its values in range, names only columns that are
named so, and binds its values to their columns. -/
theorem accepted_of_parseQuery {source : String} {s : Statement} (h : parseQuery source = .ok s) :
    s.Accepted source.utf8ByteSize := by
  have htokens := parseQuery_eq_ok_iff_tokensOf.1 h
  have hread := readFrom_of_parseTokens htokens
  refine ⟨?_, ?_, ?_, ?_, ?_⟩
  · intro p hp
    obtain ⟨b, hb, hvalue⟩ := Statement.mem_placeholders.1 hp
    have hpositive := hread.values b hb
    have hupTo := Query.parseTokens_upTo htokens b hb
    rw [hvalue] at hpositive hupTo
    have hbytes := length_tokensOf_le source
    refine ⟨hpositive.1, fun hlength => hupTo.elim id fun hle => ?_⟩
    exact Nat.lt_of_le_of_lt (hle.trans hbytes) hlength
  · intro b hb n hvalue
    have hinteger := hread.values b hb
    rwa [hvalue] at hinteger
  · cases s with
    | select s => exact Select.ReadFrom.isReserved_eq_false hread
    | insert i => exact Insert.ReadFrom.isReserved_eq_false hread
  · rintro q rfl c hc
    have hcondition := Select.ReadFrom.conditions hread c hc
    exact ⟨hcondition.bind, hcondition.operand⟩
  · rintro i rfl
    exact Insert.ReadFrom.accepted hread

/-- A number in the select list and two conditions without a value or a column are dropped. -/
def mendedSelect : Select :=
  ⟨false, ["ID", "*"], "users",
    [⟨some .or, "EMAIL", .eq, ⟨"EMAIL", .param 2⟩⟩,
      ⟨some .and, "AGE", .gt, ⟨"AGE", .literal (.integer 7)⟩⟩], some 3, none⟩

def pairedInsert : Insert :=
  ⟨none, "tags", ["ID", "NAME"],
    [⟨"ID", .param 1⟩, ⟨"NAME", .literal (.string "a")⟩, ⟨"ID", .param 9⟩,
      ⟨"NAME", .literal .null⟩], ["*", "ID"]⟩

theorem accepted_mendedSelect_pairedInsert :
    (parseQuery "SELECT id, 5, * FROM users WHERE a = TRUE AND = $ OR email = $ AND age > 7 LIMIT 3"
        = .ok (.select mendedSelect) ∧ (Statement.select mendedSelect).Accepted 82) ∧
      parseQuery "INSERT INTO tags (id, name) VALUES ($, 'a'), ($9, NULL) RETURNING *, id"
        = .ok (.insert pairedInsert) ∧ (Statement.insert pairedInsert).Accepted 71 := by
  have hselect : parseQuery
      "SELECT id, 5, * FROM users WHERE a = TRUE AND = $ OR email = $ AND age > 7 LIMIT 3" =
        .ok (.select mendedSelect) := by decide +kernel
  have hinsert : parseQuery
      "INSERT INTO tags (id, name) VALUES ($, 'a'), ($9, NULL) RETURNING *, id" =
        .ok (.insert pairedInsert) := by decide +kernel
  exact ⟨⟨hselect, accepted_of_parseQuery hselect⟩, hinsert, accepted_of_parseQuery hinsert⟩

end TypedQueries
