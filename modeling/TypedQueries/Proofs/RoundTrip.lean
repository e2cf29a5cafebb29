import TypedQueries.Proofs.CaseForms
import TypedQueries.Proofs.Provenance
import TypedQueries.Proofs.Rereading

/-!
Rendering and reading. A regular statement whose names are seven-bit words is read back from what is
rendered of it.
-/

namespace TypedQueries

namespace Text

/-- A seven-bit character that a word in capitals goes on with. -/
def isCapitalPart (c : Char) : Bool := c.isUpper || c.isDigit || c == '_'

/-- A seven-bit character that a word in small letters goes on with. -/
def isSmallPart (c : Char) : Bool := c.isLower || c.isDigit || c == '_'

/-- A seven-bit word in capitals: a letter or `_`, then letters, digits and `_`. -/
def isCapitalWord : List Char → Bool
  | [] => false
  | c :: cs => (c.isUpper || c == '_') && cs.all isCapitalPart

/-- A seven-bit word in small letters: a letter or `_`, then letters, digits and `_`. -/
def isSmallWord : List Char → Bool
  | [] => false
  | c :: cs => (c.isLower || c == '_') && cs.all isSmallPart

end Text

/-- A column name in capitals that queries give no other meaning to. -/
def isPlainColumn (name : String) : Bool := Text.isCapitalWord name.toList && !isReserved name

/-- A table name in small letters that queries give no other meaning to. -/
def isPlainTable (name : String) : Bool :=
  Text.isSmallWord name.toList && !isReserved (Text.upper name)

structure Select.Plain (s : Select) : Prop where
  columns_ne : s.columns ≠ []
  columns : ∀ c ∈ s.columns, c = "*" ∨ isPlainColumn c = true
  table : isPlainTable s.table = true
  chain : ∀ c ∈ s.conditions.head?, c.chain? = none
  conditions : ∀ c ∈ s.conditions, isPlainColumn c.column = true

instance (s : Select) : Decidable s.Plain :=
  decidable_of_iff (s.columns ≠ [] ∧ (∀ c ∈ s.columns, c = "*" ∨ isPlainColumn c = true) ∧
      isPlainTable s.table = true ∧ (∀ c ∈ s.conditions.head?, c.chain? = none) ∧
      ∀ c ∈ s.conditions, isPlainColumn c.column = true)
    ⟨fun ⟨h₁, h₂, h₃, h₄, h₅⟩ => ⟨h₁, h₂, h₃, h₄, h₅⟩,
      fun ⟨h₁, h₂, h₃, h₄, h₅⟩ => ⟨h₁, h₂, h₃, h₄, h₅⟩⟩

structure Insert.Plain (i : Insert) : Prop where
  table : isPlainTable i.table = true
  columns : ∀ c ∈ i.columns, isPlainColumn c = true
  returning : ∀ c ∈ i.returning, c = "*" ∨ isPlainColumn c = true

instance (i : Insert) : Decidable i.Plain :=
  decidable_of_iff (isPlainTable i.table = true ∧ (∀ c ∈ i.columns, isPlainColumn c = true) ∧
      ∀ c ∈ i.returning, c = "*" ∨ isPlainColumn c = true)
    ⟨fun ⟨h, h', h''⟩ => ⟨h, h', h''⟩, fun ⟨h, h', h''⟩ => ⟨h, h', h''⟩⟩

/-- All names are seven-bit words; a select list is not empty and nothing stands before the first
condition. -/
def Statement.Plain : Statement → Prop
  | select s => s.Plain
  | insert i => i.Plain

instance : (s : Statement) → Decidable s.Plain
  | .select s => inferInstanceAs (Decidable s.Plain)
  | .insert i => inferInstanceAs (Decidable i.Plain)

namespace Text

theorem isAscii_of_isCapitalPart {c : Char} (h : isCapitalPart c = true) : isAscii c = true := by
  simp only [isCapitalPart, Bool.or_eq_true, beq_iff_eq] at h
  rcases h with (h | h) | rfl
  · have hle : c.val ≤ 90 := (of_decide_eq_true h).2
    exact isAscii_iff.2 (Nat.lt_of_le_of_lt (UInt32.le_iff_toNat_le.1 hle) (by decide))
  · exact isAscii_of_isDigit h
  · decide

theorem isAscii_of_isSmallPart {c : Char} (h : isSmallPart c = true) : isAscii c = true := by
  simp only [isSmallPart, Bool.or_eq_true, beq_iff_eq] at h
  rcases h with (h | h) | rfl
  · have hle : c.val ≤ 122 := of_decide_eq_true (Bool.and_eq_true_iff.1 h).2
    exact isAscii_iff.2 (Nat.lt_of_le_of_lt (UInt32.le_iff_toNat_le.1 hle) (by decide))
  · exact isAscii_of_isDigit h
  · decide

theorem toUpper_toLower_of_isCapitalPart {c : Char} (h : isCapitalPart c = true) :
    c.toLower.toUpper = c ∧ isAscii c.toLower = true ∧ isWordPart c.toLower = true := by
  have hascii : ∀ n < 128, isCapitalPart (Char.ofNat n) = true →
      (Char.ofNat n).toLower.toUpper = Char.ofNat n ∧ isAscii (Char.ofNat n).toLower = true ∧
        isWordPart (Char.ofNat n).toLower = true := by decide +kernel
  simpa [h] using hascii c.toNat (isAscii_iff.1 (isAscii_of_isCapitalPart h))

theorem toLower_toUpper_of_isSmallPart {c : Char} (h : isSmallPart c = true) :
    c.toUpper.toLower = c ∧ isAscii c.toUpper = true ∧ isWordPart c = true := by
  have hascii : ∀ n < 128, isSmallPart (Char.ofNat n) = true →
      (Char.ofNat n).toUpper.toLower = Char.ofNat n ∧ isAscii (Char.ofNat n).toUpper = true ∧
        isWordPart (Char.ofNat n) = true := by decide +kernel
  simpa [h] using hascii c.toNat (isAscii_iff.1 (isAscii_of_isSmallPart h))

theorem isWord_of_isCapitalWord {cs : List Char} (h : isCapitalWord cs = true) :
    (∀ c ∈ cs, isCapitalPart c = true) ∧ isWord (cs.map Char.toLower) = true := by
  cases cs with
  | nil => cases h
  | cons c cs =>
    simp only [isCapitalWord, Bool.and_eq_true, List.all_eq_true] at h
    have hparts : ∀ d ∈ c :: cs, isCapitalPart d = true := by
      intro d hd
      rcases List.mem_cons.1 hd with rfl | hd
      · simp only [isCapitalPart, Bool.or_eq_true] at h ⊢
        exact h.1.imp_left Or.inl
      · exact h.2 d hd
    have hstart : ∀ n < 128, ((Char.ofNat n).isUpper || Char.ofNat n == '_') = true →
        isWordStart (Char.ofNat n).toLower = true := by decide +kernel
    have hc := hstart c.toNat (isAscii_iff.1 (isAscii_of_isCapitalPart (hparts c (by simp))))
    refine ⟨hparts, isWord_cons.2 ⟨by simpa [h.1] using hc, ?_⟩⟩
    intro d hd
    obtain ⟨e, he, rfl⟩ := List.mem_map.1 hd
    exact (toUpper_toLower_of_isCapitalPart (h.2 e he)).2.2

theorem isWord_of_isSmallWord {cs : List Char} (h : isSmallWord cs = true) :
    (∀ c ∈ cs, isSmallPart c = true) ∧ isWord cs = true := by
  cases cs with
  | nil => cases h
  | cons c cs =>
    simp only [isSmallWord, Bool.and_eq_true, List.all_eq_true] at h
    have hparts : ∀ d ∈ c :: cs, isSmallPart d = true := by
      intro d hd
      rcases List.mem_cons.1 hd with rfl | hd
      · simp only [isSmallPart, Bool.or_eq_true] at h ⊢
        exact h.1.imp_left Or.inl
      · exact h.2 d hd
    have hstart : ∀ n < 128, ((Char.ofNat n).isLower || Char.ofNat n == '_') = true →
        isWordStart (Char.ofNat n) = true := by decide +kernel
    have hc := hstart c.toNat (isAscii_iff.1 (isAscii_of_isSmallPart (hparts c (by simp))))
    refine ⟨hparts, isWord_cons.2 ⟨by simpa [h.1] using hc, ?_⟩⟩
    intro d hd
    exact (toLower_toUpper_of_isSmallPart (h.2 d hd)).2.2

end Text

theorem isBareColumn_of_isPlainColumn {name : String} (h : isPlainColumn name = true) :
    isBareColumn name = true := by
  simp only [isPlainColumn, Bool.and_eq_true, Bool.not_eq_true'] at h
  obtain ⟨hparts, hword⟩ := Text.isWord_of_isCapitalWord h.1
  have hascii : ∀ c ∈ name.toList, Text.isAscii c = true := fun c hc =>
    Text.isAscii_of_isCapitalPart (hparts c hc)
  have hlower : (Text.lower name).toList = name.toList.map Char.toLower := by
    rw [Text.lower, String.toList_ofList, Text.lowerFrom_of_isAscii [] hascii]
  have hsmall : ∀ c ∈ name.toList.map Char.toLower, Text.isAscii c = true := by
    intro c hc
    obtain ⟨d, hd, rfl⟩ := List.mem_map.1 hc
    exact (Text.toUpper_toLower_of_isCapitalPart (hparts d hd)).2.1
  have hback : (name.toList.map Char.toLower).map Char.toUpper = name.toList := by
    rw [List.map_map]
    exact (List.map_congr_left fun c hc =>
      (Text.toUpper_toLower_of_isCapitalPart (hparts c hc)).1).trans (List.map_id _)
  refine isBareColumn_iff.2 ⟨by rwa [hlower], ?_, h.2⟩
  rw [Text.upper, hlower, Text.flatMap_upperChar_of_isAscii hsmall, hback, String.ofList_toList]

theorem isBareTable_of_isPlainTable {name : String} (h : isPlainTable name = true) :
    isBareTable name = true := by
  simp only [isPlainTable, Bool.and_eq_true, Bool.not_eq_true'] at h
  obtain ⟨hparts, hword⟩ := Text.isWord_of_isSmallWord h.1
  have hascii : ∀ c ∈ name.toList, Text.isAscii c = true := fun c hc =>
    Text.isAscii_of_isSmallPart (hparts c hc)
  have hupper : (Text.upper name).toList = name.toList.map Char.toUpper := by
    rw [Text.upper, String.toList_ofList, Text.flatMap_upperChar_of_isAscii hascii]
  have hcapital : ∀ c ∈ name.toList.map Char.toUpper, Text.isAscii c = true := by
    intro c hc
    obtain ⟨d, hd, rfl⟩ := List.mem_map.1 hc
    exact (Text.toLower_toUpper_of_isSmallPart (hparts d hd)).2.1
  have hback : (name.toList.map Char.toUpper).map Char.toLower = name.toList := by
    rw [List.map_map]
    exact (List.map_congr_left fun c hc =>
      (Text.toLower_toUpper_of_isSmallPart (hparts c hc)).1).trans (List.map_id _)
  refine isBareTable_iff.2 ⟨hword, ?_, h.2⟩
  rw [Text.lower, hupper, Text.lowerFrom_of_isAscii [] hcapital, hback, String.ofList_toList]

theorem isBareItem_of_plain {name : String} (h : name = "*" ∨ isPlainColumn name = true) :
    isBareItem name = true := by
  rcases h with rfl | h
  · rfl
  · simp [isBareItem, isBareColumn_of_isPlainColumn h]

theorem Statement.bare_of_plain {s : Statement} (h : s.Plain) : s.Bare := by
  cases s with
  | select s =>
    exact ⟨h.columns_ne, fun c hc => isBareItem_of_plain (h.columns c hc),
      isBareTable_of_isPlainTable h.table, h.chain,
      fun c hc => isBareColumn_of_isPlainColumn (h.conditions c hc)⟩
  | insert i =>
    exact ⟨isBareTable_of_isPlainTable h.table,
      fun c hc => isBareColumn_of_isPlainColumn (h.columns c hc),
      fun c hc => isBareItem_of_plain (h.returning c hc)⟩

/-- A statement of the shape that the grammar gives to one, all of whose names are seven-bit words,
is read back from what is rendered of it. -/
theorem parseQuery_render {s : Statement} (hs : s.Regular) (hp : s.Plain) :
    parseQuery s.render = .ok s :=
  parseQuery_render_of_bare hs (Statement.bare_of_plain hp)

/-- A SELECT whose text literal holds quotes, comment marks, a placeholder and a line break. -/
def quotedSelect : Select :=
  ⟨true, ["ID", "*", "_A1"], "my_users",
    [⟨none, "NAME", .notEq, ⟨"NAME", .literal (.string "it''s -- $1\n/* ; FROM")⟩⟩,
      ⟨none, "AGE", .ltEq, ⟨"AGE", .param (2 ^ 64 - 1)⟩⟩,
      ⟨some .or, "KEY", .gt, ⟨"KEY", .literal (.integer (2 ^ 63 - 1))⟩⟩],
    some 0, some (2 ^ 64 - 1)⟩

/-- An INSERT of two tuples with every kind of value. -/
def mixedInsert : Insert :=
  ⟨some .rollback, "t", ["A", "B", "A"],
    [⟨"A", .literal (.boolean true)⟩, ⟨"B", .literal .null⟩, ⟨"A", .param 3⟩,
      ⟨"A", .literal (.string "")⟩, ⟨"B", .literal (.integer 0)⟩, ⟨"A", .literal (.boolean false)⟩],
    ["*", "B"]⟩

theorem parseQuery_render_samples :
    parseQuery (Statement.select quotedSelect).render = .ok (.select quotedSelect) ∧
      parseQuery (Statement.insert mixedInsert).render = .ok (.insert mixedInsert) := by
  exact ⟨parseQuery_render (by decide) (by decide), parseQuery_render (by decide) (by decide)⟩

theorem Statement.regular_of_parseQuery {source : String} {s : Statement}
    (h : parseQuery source = .ok s) (hs : ∀ b ∈ s.binds, b.position < 2 ^ 64) : s.Regular :=
  (readFrom_of_parseTokens (parseQuery_eq_ok_iff_tokensOf.1 h)).regular hs

/-- What was read is read again from its rendered form if its names are bare. -/
theorem parseQuery_render_of_parseQuery {source : String} {s : Statement}
    (h : parseQuery source = .ok s) (hs : ∀ b ∈ s.binds, b.position < 2 ^ 64) (hb : s.Bare) :
    parseQuery s.render = .ok s :=
  parseQuery_render_of_bare (Statement.regular_of_parseQuery h hs) hb

end TypedQueries
