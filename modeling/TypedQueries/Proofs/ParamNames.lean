import Mathlib.Data.List.Nodup
import TypedQueries.Proofs.BoundArguments
import TypedQueries.Proofs.Lexing

/-!
The names and tags in a struct of parameters. A field is named for the column at its position, and
with the position behind the name if an earlier field has it. The longer name is not compared with
the earlier ones again, so that two fields may get one name; and tags are not compared at all. Both
are told exactly: when names meet, and when tags do.
-/

namespace TypedQueries

namespace Params

def numberedName (column : String) (position : Nat) : String :=
  Naming.exported column ++ toString position

def numberedTag (column : String) (position : Nat) : String :=
  Naming.snake column ++ "_" ++ toString position

/-- A position whose column has the name of a field before it. That field has its name from its own
column, or because its position was put behind it. -/
inductive Repeats (column? : Nat → Option String) : Nat → Prop
  | same {j k : Nat} {c d : String} (hlt : j < k) (hc : column? j = some c)
      (hd : column? k = some d) (h : Naming.exported c = Naming.exported d) : Repeats column? k
  | numbered {j k : Nat} {c d : String} (hlt : j < k) (hj : Repeats column? j)
      (hc : column? j = some c) (hd : column? k = some d)
      (h : numberedName c j = Naming.exported d) : Repeats column? k

/-- No name with a position behind it is that of an earlier field. -/
def NamesApart (column? : Nat → Option String) : Prop :=
  ∀ j k c d, j < k → column? j = some c → column? k = some d → Repeats column? k →
    Naming.exported c ≠ numberedName d k ∧
      (Repeats column? j → numberedName c j ≠ numberedName d k)

/-- No tag without a position is that of another field. -/
def TagsApart (column? : Nat → Option String) : Prop :=
  ∀ j k c d, j ≠ k → column? j = some c → column? k = some d → ¬ Repeats column? j →
    (¬ Repeats column? k → Naming.snake c ≠ Naming.snake d) ∧
      (Repeats column? k → Naming.snake c ≠ numberedTag d k)

open scoped Classical in
/-- The name of the field for a column at a position. -/
noncomputable def nameAt (column? : Nat → Option String) (k : Nat) (c : String) : String :=
  if Repeats column? k then numberedName c k else Naming.exported c

open scoped Classical in
noncomputable def tagAt (column? : Nat → Option String) (k : Nat) (c : String) : String :=
  if Repeats column? k then numberedTag c k else Naming.snake c

section

variable {column? : Nat → Option String} {j k : Nat} {c d : String}

theorem nameAt_of_repeats (h : Repeats column? k) (c : String) :
    nameAt column? k c = numberedName c k := if_pos h

theorem nameAt_of_not_repeats (h : ¬ Repeats column? k) (c : String) :
    nameAt column? k c = Naming.exported c := if_neg h

theorem tagAt_of_repeats (h : Repeats column? k) (c : String) :
    tagAt column? k c = numberedTag c k := if_pos h

theorem tagAt_of_not_repeats (h : ¬ Repeats column? k) (c : String) :
    tagAt column? k c = Naming.snake c := if_neg h

/-- The name of a column is always given, here or before. -/
theorem exists_nameAt (hd : column? k = some d) :
    ∃ j c, j ≤ k ∧ column? j = some c ∧ nameAt column? j c = Naming.exported d := by
  induction k using Nat.strong_induction_on generalizing d with
  | _ k ih =>
    by_cases hk : Repeats column? k
    · cases hk with
      | same hlt hc hd' h =>
        obtain rfl := Option.some.inj (hd.symm.trans hd')
        obtain ⟨i, b, hle, hb, hname⟩ := ih _ hlt hc
        exact ⟨i, b, hle.trans hlt.le, hb, hname.trans h⟩
      | numbered hlt hj hc hd' h =>
        obtain rfl := Option.some.inj (hd.symm.trans hd')
        exact ⟨_, _, hlt.le, hc, (nameAt_of_repeats hj _).trans h⟩
    · exact ⟨k, d, Nat.le_refl k, hd, nameAt_of_not_repeats hk d⟩

theorem repeats_iff (hd : column? k = some d) :
    Repeats column? k ↔
      ∃ j c, j < k ∧ column? j = some c ∧ nameAt column? j c = Naming.exported d := by
  constructor
  · intro hk
    cases hk with
    | same hlt hc hd' h =>
      obtain rfl := Option.some.inj (hd.symm.trans hd')
      obtain ⟨i, b, hle, hb, hname⟩ := exists_nameAt hc
      exact ⟨i, b, Nat.lt_of_le_of_lt hle hlt, hb, hname.trans h⟩
    | numbered hlt hj hc hd' h =>
      obtain rfl := Option.some.inj (hd.symm.trans hd')
      exact ⟨_, _, hlt, hc, (nameAt_of_repeats hj _).trans h⟩
  · rintro ⟨j, c, hlt, hc, hname⟩
    by_cases hj : Repeats column? j
    · exact .numbered hlt hj hc hd ((nameAt_of_repeats hj c).symm.trans hname)
    · exact .same hlt hc hd ((nameAt_of_not_repeats hj c).symm.trans hname)

theorem nameAt_ne_iff :
    (∀ j k c d, j < k → column? j = some c → column? k = some d →
      nameAt column? j c ≠ nameAt column? k d) ↔ NamesApart column? := by
  constructor
  · intro h j k c d hlt hc hd hk
    have hname := nameAt_of_repeats hk d
    constructor
    · -- the name of `c` may stand at another position, but not behind `j`
      obtain ⟨i, b, hle, hb, hexported⟩ := exists_nameAt hc
      rw [← hexported, ← hname]
      exact h i k b d (Nat.lt_of_le_of_lt hle hlt) hb hd
    · intro hj
      rw [← nameAt_of_repeats hj c, ← hname]
      exact h j k c d hlt hc hd
  · intro h j k c d hlt hc hd heq
    by_cases hk : Repeats column? k
    · obtain ⟨hown, hnumbered⟩ := h j k c d hlt hc hd hk
      rw [nameAt_of_repeats hk] at heq
      by_cases hj : Repeats column? j
      · exact hnumbered hj ((nameAt_of_repeats hj c).symm.trans heq)
      · exact hown ((nameAt_of_not_repeats hj c).symm.trans heq)
    · rw [nameAt_of_not_repeats hk] at heq
      exact hk ((repeats_iff hd).2 ⟨j, c, hlt, hc, heq⟩)

end

theorem toString_nat_injective : Function.Injective (toString : Nat → String) := by
  intro j k h
  have htoken : numberToken j = numberToken k := by rw [numberToken, h, numberToken]
  rw [← number_numberToken j, htoken, number_numberToken]

theorem underscore_notMem_toString (n : Nat) : '_' ∉ (toString n).toList := by
  rw [Nat.toString_eq_repr, Nat.toList_repr]
  intro h
  exact absurd (Nat.isDigit_of_mem_toDigits (by decide) (by decide) h) (by decide)

/-- What stands behind the last underscore. -/
theorem eq_of_append_underscore {cs ds before before' : List Char} (hcs : '_' ∉ cs) (hds : '_' ∉ ds)
    (h : before ++ '_' :: cs = before' ++ '_' :: ds) : cs = ds := by
  rcases List.append_eq_append_iff.1 h with ⟨more, -, h⟩ | ⟨more, -, h⟩
  · cases more with
    | nil => exact (List.cons.inj h).2
    | cons m more => exact absurd (by simp [(List.cons.inj h).2]) hcs
  · cases more with
    | nil => exact (List.cons.inj h).2.symm
    | cons m more => exact absurd (by simp [(List.cons.inj h).2]) hds

theorem toList_numberedTag (c : String) (k : Nat) :
    (numberedTag c k).toList = (Naming.snake c).toList ++ '_' :: (toString k).toList := by
  simp [numberedTag]

/-- A tag with a position shows it. -/
theorem position_of_numberedTag {c d : String} {j k : Nat} (h : numberedTag c j = numberedTag d k) :
    j = k := by
  rw [← String.toList_inj, toList_numberedTag, toList_numberedTag] at h
  have hdigits := eq_of_append_underscore (underscore_notMem_toString j)
    (underscore_notMem_toString k) h
  exact toString_nat_injective (String.toList_inj.1 hdigits)

theorem tagAt_ne_iff {column? : Nat → Option String} :
    (∀ j k c d, j < k → column? j = some c → column? k = some d →
      tagAt column? j c ≠ tagAt column? k d) ↔ TagsApart column? := by
  constructor
  · intro h j k c d hne hc hd hj
    have hdiffer : tagAt column? j c ≠ tagAt column? k d := by
      rcases Nat.lt_or_gt_of_ne hne with hlt | hlt
      · exact h j k c d hlt hc hd
      · exact (h k j d c hlt hd hc).symm
    rw [tagAt_of_not_repeats hj] at hdiffer
    exact ⟨fun hk => by rwa [tagAt_of_not_repeats hk] at hdiffer,
      fun hk => by rwa [tagAt_of_repeats hk] at hdiffer⟩
  · intro h j k c d hlt hc hd
    by_cases hj : Repeats column? j <;> by_cases hk : Repeats column? k
    · rw [tagAt_of_repeats hj, tagAt_of_repeats hk]
      exact fun heq => hlt.ne (position_of_numberedTag heq)
    · rw [tagAt_of_repeats hj, tagAt_of_not_repeats hk]
      exact ((h k j d c hlt.ne' hd hc hk).2 hj).symm
    · rw [tagAt_of_not_repeats hj, tagAt_of_repeats hk]
      exact (h j k c d hlt.ne hc hd hj).2 hk
    · rw [tagAt_of_not_repeats hj, tagAt_of_not_repeats hk]
      exact (h j k c d hlt.ne hc hd hj).1 hk

/-! The fields. Those before a position are named as told, which is what the names taken there
stand for. -/

/-- How the source of a struct writes a tag. -/
def jsonTag (tag : String) : String := "json:\"" ++ tag ++ "\""

theorem jsonTag_injective : Function.Injective jsonTag := by
  intro a b h
  simpa [jsonTag, ← String.toList_inj] using h

noncomputable def fieldAt (column? : Nat → Option String) (entry : Nat × TypedColumn) : GoField :=
  ⟨nameAt column? entry.1 entry.2.column, entry.2.type,
    some (jsonTag (tagAt column? entry.1 entry.2.column))⟩

/-- The columns at the positions of entries. -/
def ColumnsOf (column? : Nat → Option String) (entries : List (Nat × TypedColumn)) : Prop :=
  ∀ k c, column? k = some c ↔ ∃ entry ∈ entries, entry.1 = k ∧ entry.2.column = c

theorem mem_before_iff {α : Type} {before rest : List (Nat × α)} {entry e : Nat × α}
    (h : Ascending (before ++ entry :: rest)) (he : e ∈ before ++ entry :: rest) :
    e ∈ before ↔ e.1 < entry.1 := by
  obtain ⟨-, hrest, hbefore⟩ := List.pairwise_append.1 h
  constructor
  · exact fun he => hbefore e he entry List.mem_cons_self
  · intro hlt
    rcases List.mem_append.1 he with he | he
    · exact he
    · rcases List.mem_cons.1 he with rfl | he
      · exact absurd hlt (Nat.lt_irrefl _)
      · have := (List.pairwise_cons.1 hrest).1 e he
        omega

theorem fields_cons {column? : Nat → Option String} {taken : List String}
    {entry : Nat × TypedColumn}
    (h : Naming.exported entry.2.column ∈ taken ↔ Repeats column? entry.1)
    (rest : List (Nat × TypedColumn)) :
    fields taken (entry :: rest) =
      fieldAt column? entry :: fields (nameAt column? entry.1 entry.2.column :: taken) rest := by
  obtain ⟨position, c⟩ := entry
  by_cases hk : Repeats column? position
  · have hmem := h.2 hk
    rw [fieldAt, nameAt_of_repeats hk, tagAt_of_repeats hk]
    simp only [fields, List.contains_iff_mem, hmem, if_true]
    rfl
  · have hmem := mt h.1 hk
    rw [fieldAt, nameAt_of_not_repeats hk, tagAt_of_not_repeats hk]
    simp only [fields, List.contains_iff_mem, hmem, if_false]
    rfl

theorem fields_eq {column? : Nat → Option String} {taken : List String}
    {before rest : List (Nat × TypedColumn)} (hcolumn : ColumnsOf column? (before ++ rest))
    (hasc : Ascending (before ++ rest))
    (htaken : ∀ name, name ∈ taken ↔
      ∃ entry ∈ before, nameAt column? entry.1 entry.2.column = name) :
    fields taken rest = rest.map (fieldAt column?) := by
  induction rest generalizing before taken with
  | nil => rfl
  | cons entry rest ih =>
    have hentry : column? entry.1 = some entry.2.column :=
      (hcolumn _ _).2 ⟨entry, by simp, rfl, rfl⟩
    have hrepeats : Naming.exported entry.2.column ∈ taken ↔ Repeats column? entry.1 := by
      rw [htaken, repeats_iff hentry]
      constructor
      · rintro ⟨e, he, hname⟩
        have hmem : e ∈ before ++ entry :: rest := List.mem_append_left _ he
        exact ⟨e.1, e.2.column, (mem_before_iff hasc hmem).1 he,
          (hcolumn _ _).2 ⟨e, hmem, rfl, rfl⟩, hname⟩
      · rintro ⟨j, b, hlt, hb, hname⟩
        obtain ⟨e, he, rfl, rfl⟩ := (hcolumn j b).1 hb
        exact ⟨e, (mem_before_iff hasc he).2 hlt, hname⟩
    have hsplit : before ++ entry :: rest = (before ++ [entry]) ++ rest := by simp
    rw [hsplit] at hcolumn hasc
    rw [fields_cons hrepeats, List.map_cons, ih hcolumn hasc]
    intro name
    rw [List.mem_cons, htaken]
    constructor
    · rintro (rfl | ⟨e, he, hname⟩)
      · exact ⟨entry, by simp, rfl⟩
      · exact ⟨e, by simp [he], hname⟩
    · rintro ⟨e, he, hname⟩
      rcases List.mem_append.1 he with he | he
      · exact Or.inr ⟨e, he, hname⟩
      · obtain rfl := List.mem_singleton.1 he
        exact Or.inl hname.symm

theorem nodup_map_iff {α β : Type} {entries : List (Nat × α)} (h : Ascending entries)
    (f : Nat × α → β) :
    (entries.map f).Nodup ↔ ∀ a ∈ entries, ∀ b ∈ entries, a.1 < b.1 → f a ≠ f b := by
  constructor
  · intro hnodup a ha b hb hlt heq
    obtain rfl := List.inj_on_of_nodup_map hnodup ha hb heq
    exact Nat.lt_irrefl _ hlt
  · intro hall
    exact List.pairwise_map.2 (h.imp_of_mem fun ha hb hlt => hall _ ha _ hb hlt)

/-- Different values at different columns. -/
theorem nodup_map_iff_columnsOf {β : Type} {column? : Nat → Option String}
    {entries : List (Nat × TypedColumn)} (hcolumn : ColumnsOf column? entries)
    (hasc : Ascending entries) (f : Nat → String → β) :
    (entries.map fun entry => f entry.1 entry.2.column).Nodup ↔
      ∀ j k c d, j < k → column? j = some c → column? k = some d → f j c ≠ f k d := by
  rw [nodup_map_iff hasc]
  constructor
  · intro h j k c d hlt hc hd
    obtain ⟨a, ha, rfl, rfl⟩ := (hcolumn j c).1 hc
    obtain ⟨b, hb, rfl, rfl⟩ := (hcolumn k d).1 hd
    exact h a ha b hb hlt
  · intro h a ha b hb hlt
    exact h _ _ _ _ hlt ((hcolumn _ _).2 ⟨a, ha, rfl, rfl⟩) ((hcolumn _ _).2 ⟨b, hb, rfl, rfl⟩)

/-- The column of the first bind at a position. -/
def columnAt (binds : List Bind) (position : Nat) : Option String :=
  (firstAt binds position).map Bind.column

theorem columnsOf_byPosition {typeOf : String → Except CompileError GoType} {binds : List Bind}
    {entries : List (Nat × TypedColumn)} (h : byPosition typeOf binds = .ok entries) :
    ColumnsOf (columnAt binds) entries := by
  obtain ⟨-, hmem⟩ := byPosition_spec h
  intro k c
  constructor
  · intro hc
    obtain ⟨b, hb, rfl⟩ := Option.map_eq_some_iff.1 hc
    obtain ⟨type, htype⟩ := typeOf_of_foldlM h (List.mem_of_find?_eq_some hb)
    exact ⟨(k, ⟨b.column, type⟩), (hmem _ _).2 ⟨b, hb, rfl, htype⟩, rfl, rfl⟩
  · rintro ⟨⟨k, d⟩, hd, rfl, rfl⟩
    obtain ⟨b, hb, hcolumn, -⟩ := (hmem k d).1 hd
    exact Option.map_eq_some_iff.2 ⟨b, hb, hcolumn.symm⟩

theorem fields_of_byPosition {typeOf : String → Except CompileError GoType} {binds : List Bind}
    {entries : List (Nat × TypedColumn)} (h : byPosition typeOf binds = .ok entries) :
    fields [] entries = entries.map (fieldAt (columnAt binds)) := by
  have hcolumns : ColumnsOf (columnAt binds) ([] ++ entries) := columnsOf_byPosition h
  exact fields_eq hcolumns (byPosition_spec h).1 (by simp)

/-- The fields have different names, and different tags, exactly if the columns keep them apart. -/
theorem nodup_fields_iff {typeOf : String → Except CompileError GoType} {binds : List Bind}
    {entries : List (Nat × TypedColumn)} (h : byPosition typeOf binds = .ok entries) :
    (((fields [] entries).map GoField.name).Nodup ↔ NamesApart (columnAt binds)) ∧
      (((fields [] entries).map GoField.tag?).Nodup ↔ TagsApart (columnAt binds)) := by
  have hcolumns := columnsOf_byPosition h
  have hasc := (byPosition_spec h).1
  rw [fields_of_byPosition h, List.map_map, List.map_map, ← nameAt_ne_iff, ← tagAt_ne_iff]
  refine ⟨nodup_map_iff_columnsOf hcolumns hasc (nameAt (columnAt binds)), ?_⟩
  rw [← nodup_map_iff_columnsOf hcolumns hasc (tagAt (columnAt binds))]
  have htags : entries.map (GoField.tag? ∘ fieldAt (columnAt binds)) =
      (entries.map fun entry => tagAt (columnAt binds) entry.1 entry.2.column).map
        (some ∘ jsonTag) := by
    simp [fieldAt, Function.comp_def]
  rw [htags, List.nodup_map_iff ((Option.some_injective _).comp jsonTag_injective)]

end Params

/-- The names in a struct of parameters differ, and so do its tags, exactly if the columns at the
positions keep them apart. -/
theorem generate_distinguishes_iff {r : Registry} {name : String} {kind : QueryKind} {s : Statement}
    {q : GeneratedQuery} {record : GoStruct} (h : generate r name kind s = .ok q)
    (hrecord : q.params? = some record) :
    ((record.fields.map GoField.name).Nodup ↔
        Params.NamesApart (Params.columnAt s.withDensePositions.binds)) ∧
      ((record.fields.map GoField.tag?).Nodup ↔
        Params.TagsApart (Params.columnAt s.withDensePositions.binds)) := by
  obtain ⟨t, columns, d, entries, hq⟩ := exists_generated h
  rw [hq.record_eq hrecord]
  exact Params.nodup_fields_iff hq.bound

/-- A table with columns that end in a number. -/
def partRegistry : Registry :=
  (Registry.empty.insertAll
    [.table ⟨"parts", [.plain "size" .int, .plain "size_2" .int, .plain "size_3" .int]⟩]).1

/-- The columns with the given names, compared with the positions from 1 on. -/
def partsWhere (columns : List String) : Statement :=
  .select ⟨false, ["*"], "parts", (columns.zipIdx 1).map fun (column, position) =>
    ⟨if position = 1 then none else some .and, column, .eq, ⟨column, .param position⟩⟩, none, none⟩

/-- The names and tags in the struct of a query, if it is generated and has one. -/
def paramNames (r : Registry) (s : Statement) : Option (List String × List (Option String)) :=
  ((generate r "FindParts" .many s).toOption.bind GeneratedQuery.params?).map fun record =>
    (record.fields.map GoField.name, record.fields.map GoField.tag?)

theorem exists_of_paramNames {r : Registry} {s : Statement} {names : List String}
    {tags : List (Option String)} (h : paramNames r s = some (names, tags)) :
    ∃ q record, generate r "FindParts" .many s = .ok q ∧ q.params? = some record ∧
      record.fields.map GoField.name = names ∧ record.fields.map GoField.tag? = tags := by
  obtain ⟨record, hrecord, hfields⟩ := Option.map_eq_some_iff.1 h
  obtain ⟨q, hq, hrecord⟩ := Option.bind_eq_some_iff.1 hrecord
  obtain ⟨hnames, htags⟩ := Prod.mk.inj hfields
  exact ⟨q, record, toOption_eq_some.1 hq, hrecord, hnames, htags⟩

/-- The third column has the name that the second field got with its position. -/
theorem generate_distinguishes_numbered :
    parseQuery "SELECT * FROM parts WHERE size = $1 AND size = $2 AND size_2 = $3" =
        .ok (partsWhere ["SIZE", "SIZE", "SIZE_2"]) ∧
      ∃ q record, generate partRegistry "FindParts" .many (partsWhere ["SIZE", "SIZE", "SIZE_2"]) =
          .ok q ∧ q.params? = some record ∧
        record.fields.map GoField.name = ["Size", "Size2", "Size23"] ∧
        Params.NamesApart (Params.columnAt
          (partsWhere ["SIZE", "SIZE", "SIZE_2"]).withDensePositions.binds) ∧
        Params.TagsApart (Params.columnAt
          (partsWhere ["SIZE", "SIZE", "SIZE_2"]).withDensePositions.binds) := by
  refine ⟨by decide +kernel, ?_⟩
  have hparams : paramNames partRegistry (partsWhere ["SIZE", "SIZE", "SIZE_2"]) =
      some (["Size", "Size2", "Size23"], [some "json:\"size\"", some "json:\"size_2\"",
        some "json:\"size_2_3\""]) := by decide +kernel
  obtain ⟨q, record, hq, hrecord, hnames, htags⟩ := exists_of_paramNames hparams
  obtain ⟨hnamesApart, htagsApart⟩ := generate_distinguishes_iff hq hrecord
  refine ⟨q, record, hq, hrecord, hnames, hnamesApart.1 ?_, htagsApart.1 ?_⟩
  · rw [hnames]
    decide
  · rw [htags]
    decide

/-- The third field gets the name of the first with its position, and the same tag. -/
theorem generate_meeting_names :
    parseQuery "SELECT * FROM parts WHERE size_3 = $1 AND size = $2 AND size = $3" =
        .ok (partsWhere ["SIZE_3", "SIZE", "SIZE"]) ∧
      ∃ q record, generate partRegistry "FindParts" .many (partsWhere ["SIZE_3", "SIZE", "SIZE"]) =
          .ok q ∧ q.params? = some record ∧
        record.fields.map GoField.name = ["Size3", "Size", "Size3"] ∧
        record.fields.map GoField.tag? =
          [some "json:\"size_3\"", some "json:\"size\"", some "json:\"size_3\""] := by
  exact ⟨by decide +kernel, exists_of_paramNames (by decide +kernel)⟩

end TypedQueries
