import TypedQueries.Proofs.BareColumns
import TypedQueries.Proofs.SnakeLoop

/-!
Tags of fields. A tag is made from the capitals of a query, where a letter right behind a digit
begins a word; in the declared name, which has small letters, it does not. So the tag is the one for
the declared name with an underscore behind each digit in front of a letter, and the one for the
declared name itself if and only if there is no such digit.
-/

namespace TypedQueries

namespace Naming

open Text

/-- No digit stands right in front of a letter. -/
def DigitsEndWords (cs : List Char) : Prop :=
  cs.IsChain fun c d => ¬ (c.isDigit = true ∧ d.isAlpha = true)

theorem digitsEndWords_cons {c : Char} {cs : List Char} :
    DigitsEndWords (c :: cs) ↔
      (c.isDigit = true → ∀ d ∈ cs.head?, d.isAlpha = false) ∧ DigitsEndWords cs := by
  rw [DigitsEndWords, List.isChain_cons]
  refine and_congr ⟨fun h hc d hd => ?_, fun h d hd hboth => ?_⟩ Iff.rfl
  · simpa [hc] using h d hd
  · simp [h hboth.1 d hd] at hboth

/-- The characters with an underscore between a digit and a letter right behind it. -/
def apartFrom (afterDigit : Bool) : List Char → List Char
  | [] => []
  | c :: cs => (if afterDigit && c.isAlpha then ['_', c] else [c]) ++ apartFrom c.isDigit cs

/-- A name in which no letter stands right behind a digit. -/
def digitsApart (name : String) : String := String.ofList (apartFrom false name.toList)

/-- What a seven-bit character is that is no capital. -/
inductive IsSmall (c : Char) : Prop
  | letter (hword : isAlphanumeric c = true) (ha : c.isAlpha = true) (hd : c.isDigit = false)
      (hne : c ≠ '_')
  | digit (hword : isAlphanumeric c = true) (ha : c.isAlpha = false) (hd : c.isDigit = true)
      (hupper : c.toUpper = c)
  | other (hword : isAlphanumeric c = false) (ha : c.isAlpha = false) (hd : c.isDigit = false)
      (hupper : c.toUpper = c)

section Step

variable {c : Char} (hc : isAscii c = true) (hsmall : c.toLower = c)
variable (started pending afterLower : Bool) (cs : List Char)
include hc hsmall

theorem isSmall_of_toLower : IsSmall c := by
  have hall := forall_isAscii (p := fun c => !(c.toLower == c) ||
    (isAlphanumeric c && (c.isAlpha && (!c.isDigit && c != '_')) ||
      (isAlphanumeric c && (!c.isAlpha && (c.isDigit && c.toUpper == c)) ||
        (!isAlphanumeric c && (!c.isAlpha && (!c.isDigit && c.toUpper == c))))))
    (by decide +kernel) hc
  have hkinds : (isAlphanumeric c = true ∧ c.isAlpha = true ∧ c.isDigit = false ∧ c ≠ '_') ∨
      (isAlphanumeric c = true ∧ c.isAlpha = false ∧ c.isDigit = true ∧ c.toUpper = c) ∨
      (isAlphanumeric c = false ∧ c.isAlpha = false ∧ c.isDigit = false ∧ c.toUpper = c) := by
    simpa [hsmall] using hall
  rcases hkinds with ⟨hword, ha, hd, hne⟩ | ⟨hword, ha, hd, hupper⟩ | ⟨hword, ha, hd, hupper⟩
  · exact .letter hword ha hd hne
  · exact .digit hword ha hd hupper
  · exact .other hword ha hd hupper

/-- Among small letters and digits, none begins a word. -/
theorem snakeFrom_small (hword : isAlphanumeric c = true) :
    snakeFrom started pending afterLower (c :: cs) =
      (if pending then ['_'] else []) ++ c :: snakeFrom true false true cs := by
  have hall := forall_isAscii (p := fun c => !(c.toLower == c && isAlphanumeric c) ||
    (!isUppercase c && (isLowercase c || c.isDigit))) (by decide +kernel) hc
  obtain ⟨hupper, hlower⟩ : isUppercase c = false ∧ (isLowercase c || c.isDigit) = true := by
    simpa [hsmall, hword] using hall
  rw [snakeFrom, if_pos hword, hupper, hlower, lowerChar_of_isAscii hc, hsmall]
  simp

/-- A capital begins a word behind a small letter or a digit. -/
theorem snakeFrom_capital (ha : c.isAlpha = true) :
    snakeFrom started pending afterLower (c.toUpper :: cs) =
      (if pending || afterLower then ['_'] else []) ++ c :: snakeFrom true false false cs := by
  have hall := forall_isAscii (p := fun c => !(c.toLower == c && c.isAlpha) ||
    (isAlphanumeric c.toUpper && (isUppercase c.toUpper && !c.toUpper.isDigit)))
    (by decide +kernel) hc
  obtain ⟨hword, hupper, hdigit⟩ : isAlphanumeric c.toUpper = true ∧
      isUppercase c.toUpper = true ∧ c.toUpper.isDigit = false := by simpa [hsmall, ha] using hall
  obtain ⟨⟨hascii, -⟩, -, ⟨hfold, -⟩, hlower⟩ := caseForms_of_isAscii hc
  rw [snakeFrom, if_pos hword, hupper, hdigit, hlower, lowerChar_of_isAscii hascii, hfold, hsmall]
  simp

end Step

theorem snakeFrom_other {c : Char} (hword : isAlphanumeric c = false)
    (started pending afterLower : Bool) (cs : List Char) :
    snakeFrom started pending afterLower (c :: cs) = snakeFrom started started false cs := by
  rw [snakeFrom, hword]
  rfl

/-- In capitals, a letter behind a digit begins a word. -/
theorem snakeFrom_map_toUpper {cs : List Char} (hcs : ∀ c ∈ cs, isAscii c = true ∧ c.toLower = c)
    (pending afterLower : Bool) {started afterDigit : Bool}
    (hstarted : afterDigit = true → started = true) :
    snakeFrom started pending afterDigit (cs.map Char.toUpper) =
      snakeFrom started pending afterLower (apartFrom afterDigit cs) := by
  induction cs generalizing started pending afterDigit afterLower with
  | nil => rfl
  | cons c cs ih =>
    rw [List.forall_mem_cons] at hcs
    obtain ⟨⟨hc, hsmall⟩, hcs⟩ := hcs
    rw [List.map_cons, apartFrom]
    cases isSmall_of_toLower hc hsmall with
    | letter hword ha hd =>
      rw [snakeFrom_capital hc hsmall _ _ _ _ ha, ih hcs false true (by simp), ha, hd]
      cases afterDigit with
      | true =>
        -- the underscore between them ends the word of the digit.
        have hunderscore : isAlphanumeric '_' = false := by decide +kernel
        obtain rfl := hstarted rfl
        simp [snakeFrom_other hunderscore, snakeFrom_small hc hsmall _ _ _ _ hword]
      | false => simp [snakeFrom_small hc hsmall _ _ _ _ hword]
    | digit hword ha hd hupper =>
      rw [hupper, snakeFrom_small hc hsmall _ _ _ _ hword, ih hcs false true (fun _ => rfl), ha, hd]
      simp [snakeFrom_small hc hsmall _ _ _ _ hword]
    | other hword ha hd hupper =>
      rw [hupper, snakeFrom_other hword, ih hcs started false (by simp), ha, hd]
      simp [snakeFrom_other hword]

/-- Capitals make no difference if and only if no letter stands right behind a digit, the one in
front included. -/
theorem snakeFrom_map_toUpper_eq_iff {cs : List Char}
    (hcs : ∀ c ∈ cs, isAscii c = true ∧ c.toLower = c)
    (started pending afterDigit afterLower : Bool) :
    snakeFrom started pending afterDigit (cs.map Char.toUpper) =
        snakeFrom started pending afterLower cs ↔
      (pending = false → afterDigit = true → ∀ c ∈ cs.head?, c.isAlpha = false) ∧
        DigitsEndWords cs := by
  induction cs generalizing started pending afterDigit afterLower with
  | nil => simp [snakeFrom, DigitsEndWords]
  | cons c cs ih =>
    rw [List.forall_mem_cons] at hcs
    obtain ⟨⟨hc, hsmall⟩, hcs⟩ := hcs
    rw [List.map_cons, digitsEndWords_cons]
    cases isSmall_of_toLower hc hsmall with
    | letter hword ha hd hne =>
      have hrest : snakeFrom true false false (cs.map Char.toUpper) = snakeFrom true false true cs ↔
          DigitsEndWords cs := by simpa using ih hcs true false false true
      rw [snakeFrom_capital hc hsmall _ _ _ _ ha, snakeFrom_small hc hsmall _ _ _ _ hword]
      -- behind the end of a word both begin a new one; else only the capital can.
      cases pending with
      | true => simp [hrest, hd]
      | false =>
        cases afterDigit with
        | true => simp [ha, hne.symm]
        | false => simp [hrest, hd]
    | digit hword ha hd hupper =>
      rw [hupper, snakeFrom_small hc hsmall _ _ _ _ hword, snakeFrom_small hc hsmall _ _ _ _ hword,
        List.append_cancel_left_eq, List.cons_inj_right, ih hcs]
      simp [ha, hd]
    | other hword ha hd hupper =>
      rw [hupper, snakeFrom_other hword, snakeFrom_other hword, ih hcs]
      simp [ha, hd]

theorem snake_upper {name : String} (h : isSmallAscii name = true) :
    snake (upper name) = snake (digitsApart name) := by
  rw [isSmallAscii_iff] at h
  rw [snake_eq, snake_eq, toList_upper_of_isAscii fun c hc => (h c hc).1, digitsApart,
    String.toList_ofList, snakeFrom_map_toUpper h false false (by simp)]

/-- The capitals of a name give its tag if and only if no digit in it stands right in front of a
letter. -/
theorem snake_upper_eq_iff {name : String} (h : isSmallAscii name = true) :
    snake (upper name) = snake name ↔ DigitsEndWords name.toList := by
  rw [isSmallAscii_iff] at h
  rw [snake_eq, snake_eq, toList_upper_of_isAscii fun c hc => (h c hc).1, String.ofList_inj,
    snakeFrom_map_toUpper_eq_iff h]
  simp

end Naming

/-- Each field of a struct of parameters is for a column. If the table has that column and no
position is behind the name of the field, its tag is made from the declared name with an underscore
behind each digit in front of a letter; the declared name itself gives that tag if and only if it
has no such digit. -/
def Params.TagsDeclared (t : Table) (record : GoStruct) (column? : Nat → Option String) : Prop :=
  ∀ (i : Nat) (field : GoField), record.fields[i]? = some field → ∃ c, column? (i + 1) = some c ∧
    ∀ f ∈ t.fields, Text.equalIgnoringCase f.name c = true → field.name = Naming.exported c →
      field.tag? = some (jsonTag (Naming.snake (Naming.digitsApart f.name))) ∧
        (field.tag? = some (jsonTag (Naming.snake f.name)) ↔ Naming.DigitsEndWords f.name.toList)

/-- In a table with bare names, capitals do not change the snake case of a name if and only if no
digit in it stands right in front of a letter, and the tags for its columns follow that. -/
theorem generate_tag_declared_iff {now : Clock} {schema source name : String} {kind : QueryKind}
    {r : Registry} {t : Table} {s : Statement} {q : GeneratedQuery} {record : GoStruct}
    (hbare : Schema.DeclaresBare now schema t) (hs : parseQuery source = .ok s)
    (h : generate r name kind s = .ok q) (hrecord : q.params? = some record) :
    (∀ f ∈ t.fields,
      Naming.snake (Text.upper f.name) = Naming.snake (Naming.digitsApart f.name) ∧
        (Naming.snake (Text.upper f.name) = Naming.snake f.name ↔
          Naming.DigitsEndWords f.name.toList)) ∧
      Params.TagsDeclared t record (Params.columnAt s.withDensePositions.binds) := by
  have hsmall := hbare.isSmallAscii
  refine ⟨fun f hf => ?_, fun i field hfield => ?_⟩
  · exact ⟨Naming.snake_upper (hsmall f hf), Naming.snake_upper_eq_iff (hsmall f hf)⟩
  · obtain ⟨c, hc, hfor⟩ := exists_columnAt_of_field hs h hrecord hfield
    refine ⟨c, hc, fun f hf hmatch hname => ?_⟩
    obtain rfl := eq_upper_of_equalIgnoringCase (hsmall f hf) (isColumnName_of_columnAt hs hc) hmatch
    rw [hfor.tag_of_name hname, ← Naming.snake_upper (hsmall f hf),
      ← Naming.snake_upper_eq_iff (hsmall f hf)]
    refine ⟨rfl, ?_⟩
    rw [Option.some_inj, Params.jsonTag_injective.eq_iff]

/-- The first of two fields for one column has no position behind its name. -/
theorem generate_tag_declared_created :
    Schema.DeclaresBare (⟨2024, 3, 9, 14, 5, 0⟩ : Moment) partSchema partTable ∧
      parseQuery "SELECT * FROM parts WHERE created_at = $1 AND created_at = $2" =
        .ok (partsWhere ["CREATED_AT", "CREATED_AT"]) ∧
      ∃ r q record, Registry.ofItems [.table partTable] = .ok r ∧
        generate r "FindParts" .many (partsWhere ["CREATED_AT", "CREATED_AT"]) = .ok q ∧
        q.params? = some record ∧
        record.fields.map GoField.name = ["CreatedAt", "CreatedAt2"] ∧
        record.fields.map GoField.tag? =
          [some (Params.jsonTag "created_at"), some (Params.jsonTag "created_at_2")] ∧
        Naming.DigitsEndWords "created_at".toList ∧
        ¬ Naming.DigitsEndWords "line2total".toList ∧
        Params.TagsDeclared partTable record (Params.columnAt
          (partsWhere ["CREATED_AT", "CREATED_AT"]).withDensePositions.binds) := by
  have hbare := declaresBare_partSchema (⟨2024, 3, 9, 14, 5, 0⟩ : Moment)
  have hparse : parseQuery "SELECT * FROM parts WHERE created_at = $1 AND created_at = $2" =
      .ok (partsWhere ["CREATED_AT", "CREATED_AT"]) := by decide +kernel
  let r := (Registry.empty.insertAll [.table partTable]).1
  have hparams : paramNames r (partsWhere ["CREATED_AT", "CREATED_AT"]) =
      some (["CreatedAt", "CreatedAt2"],
        [some "json:\"created_at\"", some "json:\"created_at_2\""]) := by decide +kernel
  obtain ⟨q, record, hq, hrecord, hnames, htags⟩ := exists_of_paramNames hparams
  obtain ⟨hsnake, hdeclared⟩ := generate_tag_declared_iff hbare hparse hq hrecord
  have hends := (hsnake (.plain "created_at" .timestamp) (by decide)).2.1 (by decide +kernel)
  have hsplits := mt (hsnake (.plain "line2total" .int) (by decide)).2.2 (by decide +kernel)
  exact ⟨hbare, hparse, r, q, record, by decide +kernel, hq, hrecord, hnames, htags, hends, hsplits,
    hdeclared⟩

/-- The capital behind the digit begins a word, which the declared name does not have. -/
theorem generate_tag_line2total :
    Schema.DeclaresBare (⟨2024, 3, 9, 14, 5, 0⟩ : Moment) partSchema partTable ∧
      parseQuery "SELECT * FROM parts WHERE line2total = $1" = .ok (partsWhere ["LINE2TOTAL"]) ∧
      ∃ r q record, Registry.ofItems [.table partTable] = .ok r ∧
        generate r "FindParts" .many (partsWhere ["LINE2TOTAL"]) = .ok q ∧
        q.params? = some record ∧ record.fields.map GoField.name = ["Line2total"] ∧
        record.fields.map GoField.tag? = [some (Params.jsonTag "line2_total")] ∧
        Naming.snake "line2total" = "line2total" := by
  let r := (Registry.empty.insertAll [.table partTable]).1
  have hparams : paramNames r (partsWhere ["LINE2TOTAL"]) =
      some (["Line2total"], [some "json:\"line2_total\""]) := by decide +kernel
  obtain ⟨q, record, hq, hrecord, hnames, htags⟩ := exists_of_paramNames hparams
  exact ⟨declaresBare_partSchema (⟨2024, 3, 9, 14, 5, 0⟩ : Moment), by decide +kernel, r, q, record,
    by decide +kernel, hq, hrecord, hnames, htags, by decide +kernel⟩

end TypedQueries
