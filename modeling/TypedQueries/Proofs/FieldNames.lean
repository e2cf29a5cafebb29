import TypedQueries.Proofs.BareColumns

/-!
Names of fields. The identifier for a name in ASCII is a capital with letters and digits behind it,
and is the same for the name in capitals and in small letters. So the field for a value is named as
the field of its column in a row, unless a field before it has that name.
-/

namespace TypedQueries

namespace Text

theorem toUpper_of_isAscii_eq_false {c : Char} (h : isAscii c = false) : c.toUpper = c := by
  have hn : 128 ≤ c.toNat := by simpa [isAscii] using h
  have hrange : ¬ (c.val ≥ 97 ∧ c.val ≤ 122) := by
    rintro ⟨-, hle⟩
    have : c.val.toNat ≤ 122 := UInt32.le_iff_toNat_le.1 hle
    exact absurd hn (by simp only [Char.toNat]; omega)
  exact dif_neg hrange

end Text

namespace Naming

open Text

/-- A Go identifier of ASCII letters and digits that other packages see. -/
def isExported : List Char → Bool
  | [] => false
  | c :: cs => c.isUpper && cs.all Char.isAlphanum

theorem isAlphanumeric_toUpper (c : Char) : isAlphanumeric c.toUpper = isAlphanumeric c := by
  cases hc : isAscii c with
  | true =>
    have hall := forall_isAscii (p := fun c => isAlphanumeric c.toUpper == isAlphanumeric c)
      (by decide +kernel) hc
    exact beq_iff_eq.1 hall
  | false => rw [toUpper_of_isAscii_eq_false hc]

theorem isAlphanumeric_toLower (c : Char) : isAlphanumeric c.toLower = isAlphanumeric c :=
  apply_toLower (by decide +kernel) c

theorem words_map {f : Char → Char} (h : ∀ c, isAlphanumeric (f c) = isAlphanumeric c)
    (cs : List Char) : words (cs.map f) = (words cs).map (List.map f) := by
  have hcomp : isAlphanumeric ∘ f = isAlphanumeric := funext h
  fun_induction words cs with
  | case1 => simp [words]
  | case2 c cs hc ih =>
    rw [List.map_cons, words, if_pos (by rw [h, hc]), List.takeWhile_map, List.dropWhile_map, hcomp,
      ih]
    rfl
  | case3 c cs hc ih =>
    rw [List.map_cons, words, if_neg (by rw [h]; exact hc), ih]

/-- A word of letters and digits that is part of a text. -/
theorem of_mem_words {cs word : List Char} (h : word ∈ words cs) :
    word ≠ [] ∧ ∀ c ∈ word, c ∈ cs ∧ isAlphanumeric c = true := by
  fun_induction words cs with
  | case1 => cases h
  | case2 c cs hc ih =>
    rcases List.mem_cons.1 h with rfl | h
    · refine ⟨by simp, fun d hd => ?_⟩
      rcases List.mem_cons.1 hd with rfl | hd
      · exact ⟨List.mem_cons_self, hc⟩
      · exact ⟨List.mem_cons_of_mem c ((List.takeWhile_sublist _).subset hd),
          (List.all_eq_true.1 List.all_takeWhile) d hd⟩
    · obtain ⟨hne, hall⟩ := ih h
      exact ⟨hne, fun d hd => ⟨List.mem_cons_of_mem c
        ((List.dropWhile_sublist _).subset (hall d hd).1), (hall d hd).2⟩⟩
  | case3 c cs hc ih =>
    obtain ⟨hne, hall⟩ := ih h
    exact ⟨hne, fun d hd => ⟨List.mem_cons_of_mem c (hall d hd).1, (hall d hd).2⟩⟩

section Ascii

variable {c : Char} {cs : List Char}

theorem capitalized_of_isAscii (h : ∀ d ∈ c :: cs, isAscii d = true) :
    capitalized (c :: cs) =
      c.toUpper :: if (c :: cs).any isLowercase then cs else cs.map Char.toLower := by
  rw [List.forall_mem_cons] at h
  rw [capitalized, upperChar_of_isAscii h.1, lowerFrom_of_isAscii [] h.2]
  split <;> rfl

theorem capitalized_map_toUpper (h : ∀ d ∈ c :: cs, isAscii d = true) :
    capitalized ((c :: cs).map Char.toUpper) = c.toUpper :: cs.map Char.toLower := by
  have hascii : ∀ d ∈ (c :: cs).map Char.toUpper, isAscii d = true :=
    List.forall_mem_map.2 fun d hd => (caseForms_of_isAscii (h d hd)).1.1
  have hlower : ((c :: cs).map Char.toUpper).any isLowercase = false := by
    rw [List.any_map, List.any_eq_false]
    intro d hd
    simp [(caseForms_of_isAscii (h d hd)).2.2.2]
  have hrest : (cs.map Char.toUpper).map Char.toLower = cs.map Char.toLower := by
    rw [List.map_map]
    exact List.map_congr_left fun d hd =>
      (caseForms_of_isAscii (h d (List.mem_cons_of_mem c hd))).2.2.1.1
  rw [List.map_cons] at hascii hlower ⊢
  rw [capitalized_of_isAscii hascii, if_neg (by simp [hlower]), hrest,
    (caseForms_of_isAscii (h c List.mem_cons_self)).2.1.1]

theorem capitalized_map_toLower (h : ∀ d ∈ c :: cs, isAscii d = true) :
    capitalized ((c :: cs).map Char.toLower) = c.toUpper :: cs.map Char.toLower := by
  have hascii : ∀ d ∈ (c :: cs).map Char.toLower, isAscii d = true :=
    List.forall_mem_map.2 fun d hd => (caseForms_of_isAscii (h d hd)).1.2
  have hrest : (cs.map Char.toLower).map Char.toLower = cs.map Char.toLower := by
    rw [List.map_map]
    exact List.map_congr_left fun d hd =>
      (caseForms_of_isAscii (h d (List.mem_cons_of_mem c hd))).2.2.1.2
  rw [List.map_cons] at hascii ⊢
  rw [capitalized_of_isAscii hascii, hrest, ite_self,
    (caseForms_of_isAscii (h c List.mem_cons_self)).2.1.2]

end Ascii

/-- A name has one identifier, whether it is spelled in capitals or in small letters. -/
theorem exported_upper {name : String} (h : ∀ c ∈ name.toList, isAscii c = true) :
    exported (upper name) = exported (lower name) := by
  have hwords : (words (name.toList.map Char.toUpper)).flatMap capitalized =
      (words (name.toList.map Char.toLower)).flatMap capitalized := by
    rw [words_map isAlphanumeric_toUpper, words_map isAlphanumeric_toLower, List.flatMap_map,
      List.flatMap_map]
    refine List.flatMap_congr fun word hword => ?_
    obtain ⟨hne, hall⟩ := of_mem_words hword
    obtain ⟨c, cs, rfl⟩ := List.exists_cons_of_ne_nil hne
    have hascii : ∀ d ∈ c :: cs, isAscii d = true := fun d hd => h d (hall d hd).1
    rw [capitalized_map_toUpper hascii, capitalized_map_toLower hascii]
  rw [exported, exported, upper, lower, String.toList_ofList, String.toList_ofList,
    flatMap_upperChar_of_isAscii h, lowerFrom_of_isAscii [] h, hwords]

/-- What a word of letters and digits is capitalized to. -/
theorem isAlphanum_capitalized {word : List Char}
    (h : ∀ c ∈ word, isAscii c = true ∧ isAlphanumeric c = true) :
    (∀ c ∈ capitalized word, c.isAlphanum = true) ∧
      ∀ c ∈ (capitalized word).head?, c.isDigit = true ∨ c.isUpper = true := by
  have hforms : ∀ {c : Char}, isAscii c = true ∧ isAlphanumeric c = true → c.isAlphanum = true ∧
      c.toLower.isAlphanum = true ∧ c.toUpper.isAlphanum = true ∧
      (c.toUpper.isDigit = true ∨ c.toUpper.isUpper = true) := by
    rintro c ⟨hascii, hc⟩
    have hall := forall_isAscii (p := fun c => !isAlphanumeric c || (c.isAlphanum &&
      (c.toLower.isAlphanum && (c.toUpper.isAlphanum && (c.toUpper.isDigit || c.toUpper.isUpper)))))
      (by decide +kernel) hascii
    simpa [hc] using hall
  cases word with
  | nil => simp [capitalized]
  | cons c cs =>
    rw [capitalized_of_isAscii fun d hd => (h d hd).1]
    rw [List.forall_mem_cons] at h
    refine ⟨List.forall_mem_cons.2 ⟨(hforms h.1).2.2.1, ?_⟩, by simpa using (hforms h.1).2.2.2⟩
    split
    · exact fun d hd => (hforms (h.2 d hd)).1
    · exact List.forall_mem_map.2 fun d hd => (hforms (h.2 d hd)).2.1

/-- The identifier of a seven-bit name. -/
theorem isExported_exported {name : String} (h : ∀ c ∈ name.toList, isAscii c = true) :
    isExported (exported name).toList = true := by
  have hwords : ∀ word ∈ words name.toList,
      ∀ c ∈ word, isAscii c = true ∧ isAlphanumeric c = true := fun word hword c hc =>
    ⟨h c ((of_mem_words hword).2 c hc).1, ((of_mem_words hword).2 c hc).2⟩
  have hall : ∀ c ∈ (words name.toList).flatMap capitalized, c.isAlphanum = true := by
    intro c hc
    obtain ⟨word, hword, hc⟩ := List.mem_flatMap.1 hc
    exact (isAlphanum_capitalized (hwords word hword)).1 c hc
  have hhead : ∀ c ∈ ((words name.toList).flatMap capitalized).head?,
      c.isDigit = true ∨ c.isUpper = true := by
    intro c hc
    rw [List.head?_flatMap] at hc
    obtain ⟨word, hword, hc⟩ := List.exists_of_findSome?_eq_some hc
    exact (isAlphanum_capitalized (hwords word hword)).2 c hc
  rw [exported, String.toList_ofList]
  generalize (words name.toList).flatMap capitalized = cs at hall hhead
  cases cs with
  | nil => decide
  | cons c cs =>
    rw [guarded]
    split
    · simpa [isExported] using hall
    · rename_i hdigit
      have hupper := (hhead c rfl).resolve_left hdigit
      simp only [isExported, hupper, Bool.true_and, List.all_eq_true]
      exact (List.forall_mem_cons.1 hall).2

end Naming

theorem Registry.map_name_of_resolveTable {r : Registry} {t : Table} {columns : List ResolvedColumn}
    (h : r.resolveTable t = .ok columns) :
    columns.map ResolvedColumn.name = t.fields.map Field.name := by
  unfold Registry.resolveTable at h
  generalize t.fields = fields at h
  induction fields generalizing columns with
  | nil =>
    cases h
    rfl
  | cons f fields ih =>
    obtain ⟨column, rest, hcolumn, hrest, rfl⟩ := mapM_cons_eq_ok.1 h
    obtain ⟨type, -, hcolumn⟩ := bind_eq_ok.1 hcolumn
    cases hcolumn
    rw [List.map_cons, List.map_cons, ih hrest]

/-- A row has the fields of the table's columns, at the same places. -/
theorem Registry.exists_rowField {r : Registry} {t : Table} {row : GoStruct}
    (h : r.rowStruct t = .ok row) {j : Nat} {f : Field} (hf : t.fields[j]? = some f) :
    ∃ field, row.fields[j]? = some field ∧ field.name = Naming.exported f.name := by
  obtain ⟨columns, hcolumns, h⟩ := bind_eq_ok.1 h
  cases h
  have hname : (columns.map ResolvedColumn.name)[j]? = some f.name := by
    rw [map_name_of_resolveTable hcolumns, List.getElem?_map, hf, Option.map_some]
  rw [List.getElem?_map] at hname ⊢
  obtain ⟨column, hcolumn, hname⟩ := Option.map_eq_some_iff.1 hname
  exact ⟨column.goField, by rw [hcolumn, Option.map_some], by rw [← hname]; rfl⟩

/-- Each field of a struct of parameters is for a column. If the table has that column, the field
has the name of the column in a row, with the position behind it if an earlier field has that name. -/
def Params.SharesNames (t : Table) (row record : GoStruct) (column? : Nat → Option String) : Prop :=
  ∀ (i : Nat) (field : GoField), record.fields[i]? = some field → ∃ c, column? (i + 1) = some c ∧
    ∀ (j : Nat) (f : Field), t.fields[j]? = some f → Text.equalIgnoringCase f.name c = true →
      ∃ rowField, row.fields[j]? = some rowField ∧
        (rowField.name ∉ (record.fields.take i).map GoField.name → field.name = rowField.name) ∧
        (rowField.name ∈ (record.fields.take i).map GoField.name →
          field.name = rowField.name ++ toString (i + 1))

/-- The identifier for a name in ASCII is an exported one, and the case of the name does not count.
A field for a column of a table with bare names is named as in the rows of the table. -/
theorem generate_sharesNames :
    (∀ n : String, (∀ c ∈ n.toList, Text.isAscii c = true) →
      Naming.isExported (Naming.exported n).toList = true ∧
        Naming.exported (Text.upper n) = Naming.exported (Text.lower n)) ∧
      ∀ (now : Clock) (schema source name : String) (kind : QueryKind) (r : Registry) (t : Table)
        (s : Statement) (q : GeneratedQuery) (record : GoStruct),
        Schema.DeclaresBare now schema t → parseQuery source = .ok s → r.table s.table = .ok t →
        generate r name kind s = .ok q → q.params? = some record →
          ∃ row, r.rowStruct t = .ok row ∧
            Params.SharesNames t row record (Params.columnAt s.withDensePositions.binds) := by
  refine ⟨fun n hn => ⟨Naming.isExported_exported hn, Naming.exported_upper hn⟩, ?_⟩
  intro now schema source name kind r t s q record hbare hs ht h hrecord
  obtain ⟨t', columns, d, entries, hq⟩ := exists_generated h
  obtain rfl := Except.ok.inj (ht.symm.trans hq.table)
  have hrow : r.rowStruct t = .ok ⟨Naming.exported t.name, columns.map ResolvedColumn.goField⟩ :=
    bind_eq_ok.2 ⟨columns, hq.resolved, rfl⟩
  refine ⟨_, hrow, fun i field hfield => ?_⟩
  obtain ⟨c, hc, hfor⟩ := exists_columnAt_of_field hs h hrecord hfield
  refine ⟨c, hc, fun j f hf hmatch => ?_⟩
  obtain ⟨rowField, hrowField, hname⟩ := Registry.exists_rowField hrow hf
  have hsmall := hbare.isSmallAscii f (List.mem_of_getElem? hf)
  obtain rfl := eq_upper_of_equalIgnoringCase hsmall (isColumnName_of_columnAt hs hc) hmatch
  have hascii : ∀ d ∈ f.name.toList, Text.isAscii d = true :=
    fun d hd => (Text.isSmallAscii_iff.1 hsmall d hd).1
  have hsame : rowField.name = Naming.exported (Text.upper f.name) := by
    rw [hname, Naming.exported_upper hascii, Text.lower_of_isSmallAscii hsmall]
  refine ⟨rowField, hrowField, ?_⟩
  rw [hsame]
  exact ⟨fun hfresh => (hfor.fresh hfresh).1, fun htaken => (hfor.taken htaken).1⟩

/-- The third value is for the column of the first, so that its name is taken. -/
theorem generate_sharesNames_parts :
    (∀ c ∈ "2nd-PLACE".toList, Text.isAscii c = true) ∧
      Naming.exported (Text.upper "2nd-PLACE") = Naming.exported (Text.lower "2nd-PLACE") ∧
      Schema.DeclaresBare (⟨2024, 3, 9, 14, 5, 0⟩ : Moment) partSchema partTable ∧
      parseQuery
          "SELECT * FROM parts WHERE created_at = $1 AND line2total = $2 AND created_at = $3" =
        .ok (partsWhere ["CREATED_AT", "LINE2TOTAL", "CREATED_AT"]) ∧
      ∃ r row q record, Registry.ofItems [.table partTable] = .ok r ∧
        generate r "FindParts" .many (partsWhere ["CREATED_AT", "LINE2TOTAL", "CREATED_AT"]) =
          .ok q ∧
        q.params? = some record ∧
        record.fields.map GoField.name = ["CreatedAt", "Line2total", "CreatedAt3"] ∧
        r.rowStruct partTable = .ok row ∧
        Params.SharesNames partTable row record (Params.columnAt
          (partsWhere ["CREATED_AT", "LINE2TOTAL", "CREATED_AT"]).withDensePositions.binds) := by
  have hascii : ∀ c ∈ "2nd-PLACE".toList, Text.isAscii c = true :=
    List.all_eq_true.1 (by decide +kernel)
  have hparse : parseQuery
      "SELECT * FROM parts WHERE created_at = $1 AND line2total = $2 AND created_at = $3" =
        .ok (partsWhere ["CREATED_AT", "LINE2TOTAL", "CREATED_AT"]) := by decide +kernel
  have hbare := declaresBare_partSchema (⟨2024, 3, 9, 14, 5, 0⟩ : Moment)
  let r := (Registry.empty.insertAll [.table partTable]).1
  have hparams : paramNames r (partsWhere ["CREATED_AT", "LINE2TOTAL", "CREATED_AT"]) =
      some (["CreatedAt", "Line2total", "CreatedAt3"], [some "json:\"created_at\"",
        some "json:\"line2_total\"", some "json:\"created_at_3\""]) := by decide +kernel
  obtain ⟨q, record, hq, hrecord, hnames, -⟩ := exists_of_paramNames hparams
  obtain ⟨row, hrow, hshares⟩ := generate_sharesNames.2 _ _ _ _ _ r partTable _ q record hbare
    hparse (by decide +kernel) hq hrecord
  exact ⟨hascii, (generate_sharesNames.1 _ hascii).2, hbare, hparse, r, row, q, record,
    by decide +kernel, hq, hrecord, hnames, hrow, hshares⟩

end TypedQueries
