import TypedQueries.Proofs.BoundArguments
import TypedQueries.Proofs.Provenance

/-!
The types in a struct of parameters. A position at which several columns are bound has one field,
with the type of the first of them. The others are looked up too, but their types may be different
ones, and then the field fits the first only.
-/

namespace TypedQueries

namespace Registry

/-- The Go type of a column: that of the table's column, or a string if the name is not that of a
column but of an enumeration. -/
def resolved? (r : Registry) (t : Table) (column : String) : Option GoType :=
  match t.field? column with
  | some f => (r.goType f.dataType).toOption
  | none => (r.enumeration? column).map fun _ => .string

/-- The type is that of the column, or a pointer to it. -/
def Fits (r : Registry) (t : Table) (column : String) (type : GoType) : Prop :=
  ∃ plain, r.resolved? t column = some plain ∧ (type = plain ∨ type = .pointer plain)

variable {r : Registry} {t : Table}

theorem goType_ne_pointer {d : DataType} {type : GoType} (h : r.goType d = .ok type)
    (inner : GoType) : type ≠ .pointer inner := by
  rintro rfl
  cases d with
  | enum name =>
    simp only [goType] at h
    split at h <;> cases h
  | _ => cases h

theorem resolved?_ne_pointer {column : String} {type : GoType}
    (h : r.resolved? t column = some type) (inner : GoType) : type ≠ .pointer inner := by
  unfold resolved? at h
  split at h
  · rename_i f _
    cases hd : r.goType f.dataType with
    | error e =>
      rw [hd] at h
      cases h
    | ok plain =>
      rw [hd] at h
      cases h
      exact goType_ne_pointer hd inner
  · obtain ⟨e, -, rfl⟩ := Option.map_eq_some_iff.1 h
    simp

theorem fits_of_isParamType {s : Statement} {column : String} {type : GoType}
    (h : r.IsParamType t s column type) : r.Fits t column type := by
  unfold IsParamType at h
  split at h <;> rename_i hfield
  · obtain ⟨plain, hplain, rfl⟩ := h
    refine ⟨plain, by simp [resolved?, hfield, hplain, Except.toOption], ?_⟩
    cases s with
    | select _ => exact Or.inl rfl
    | insert _ =>
      dsimp only
      split
      · exact Or.inr rfl
      · exact Or.inl rfl
  · obtain ⟨henum, rfl⟩ := h
    obtain ⟨e, he⟩ := Option.isSome_iff_exists.1 henum
    exact ⟨.string, by simp [resolved?, hfield, he], Or.inl rfl⟩

/-- No column has the type of a pointer, so that a type fits columns of one type only. -/
theorem Fits.resolved?_eq {c d : String} {type : GoType} (hc : r.Fits t c type)
    (hd : r.Fits t d type) : r.resolved? t c = r.resolved? t d := by
  obtain ⟨plain, hplain, htype⟩ := hc
  obtain ⟨plain', hplain', htype'⟩ := hd
  rw [hplain, hplain']
  rcases htype with rfl | rfl <;> rcases htype' with h | h
  · rw [h]
  · exact absurd h (resolved?_ne_pointer hplain _)
  · exact absurd h.symm (resolved?_ne_pointer hplain' _)
  · cases h
    rfl

end Registry

namespace Params

/-- The binds of placeholders with the given position. -/
def boundAt (binds : List Bind) (position : Nat) : List Bind :=
  binds.filter fun b => b.value == .param position

end Params

theorem Statement.one_le_of_parseQuery {source : String} {s : Statement}
    (h : parseQuery source = .ok s) : ∀ p ∈ s.placeholders, 1 ≤ p := by
  intro p hp
  obtain ⟨b, hb, hvalue⟩ := mem_placeholders.1 hp
  have hread := (readFrom_of_parseTokens h).values b hb
  rw [hvalue] at hread
  exact hread.1

/-- Each position of a generated query has a field, which fits the first column that is bound there.
All columns bound there have a type, and the field fits them all if and only if they have the same
type as the first. -/
theorem generate_fits_iff {source : String} {r : Registry} {name : String} {kind : QueryKind}
    {s : Statement} {q : GeneratedQuery} (hs : parseQuery source = .ok s)
    (h : generate r name kind s = .ok q) :
    ∃ t, r.table s.table = .ok t ∧ ∀ k, k + 1 ∈ s.withDensePositions.placeholders →
      let bound := Params.boundAt s.withDensePositions.binds (k + 1)
      ∃ record f first, q.params? = some record ∧ record.fields[k]? = some f ∧
        Params.firstAt s.withDensePositions.binds (k + 1) = some first ∧
        r.Fits t first.column f.type ∧
        (∀ b ∈ bound, (r.resolved? t b.column).isSome = true) ∧
        ((∀ b ∈ bound, r.Fits t b.column f.type) ↔
          ∀ b ∈ bound, r.resolved? t b.column = r.resolved? t first.column) := by
  obtain ⟨t, columns, d, entries, hq⟩ := exists_generated h
  have hentries := hq.bound
  have hdense := Statement.mem_placeholders_withDensePositions (Statement.one_le_of_parseQuery hs)
  have hkeys := Params.keys_byPosition hentries fun k =>
    Statement.mem_placeholders.symm.trans (hdense k)
  have hlength : (Params.fields [] entries).length = s.arity := by
    simpa using (congrArg List.length (Params.map_type_fields [] entries)).trans
      (by simpa using congrArg List.length hkeys)
  refine ⟨t, hq.table, fun k hk => ?_⟩
  intro bound
  have hlt : k < (Params.fields [] entries).length := hlength ▸ ((hdense (k + 1)).1 hk).2
  have hne : entries ≠ [] := by
    rintro rfl
    exact absurd hlt (Nat.not_lt_zero k)
  obtain ⟨first, hfirst, htype⟩ :=
    firstAt_of_getElem?_fields hentries hkeys (List.getElem?_eq_getElem hlt)
  have hfits := Registry.fits_of_isParamType (Registry.isParamType_of_bindType hq.resolved htype)
  refine ⟨_, _, first, hq.params_of_ne_nil hne, List.getElem?_eq_getElem hlt, hfirst, hfits, ?_, ?_, ?_⟩
  · intro b hb
    rw [Params.byPosition_eq] at hentries
    obtain ⟨type, hb⟩ := Params.typeOf_of_foldlM hentries (List.mem_filter.1 hb).1
    obtain ⟨plain, hplain, -⟩ :=
      Registry.fits_of_isParamType (Registry.isParamType_of_bindType hq.resolved hb)
    rw [hplain]
    rfl
  · intro hall b hb
    exact (hall b hb).resolved?_eq hfits
  · intro hall b hb
    obtain ⟨plain, hplain, htype⟩ := hfits
    exact ⟨plain, (hall b hb).trans hplain, htype⟩

/-- A table with two columns of one type and one of another, all of which may be null. -/
def rangeRegistry : Registry :=
  (Registry.empty.insertAll
    [.table ⟨"ranges", [.plain "low" .int, .plain "high" .int, .plain "label" .text]⟩]).1

/-- Two columns of one type share a position. -/
def addRange : Insert :=
  ⟨none, "ranges", ["LOW", "HIGH", "LABEL"],
    [⟨"LOW", .param 1⟩, ⟨"HIGH", .param 1⟩, ⟨"LABEL", .param 2⟩], []⟩

theorem generate_fits_addRange :
    parseQuery "INSERT INTO ranges (low, high, label) VALUES ($, $1, $2)" = .ok (.insert addRange) ∧
      ∃ q t record f, generate rangeRegistry "AddRange" .exec (.insert addRange) = .ok q ∧
        rangeRegistry.table "ranges" = .ok t ∧ q.params? = some record ∧ record.fields[0]? = some f ∧
        rangeRegistry.Fits t "LOW" f.type ∧ rangeRegistry.Fits t "HIGH" f.type := by
  have hs : parseQuery "INSERT INTO ranges (low, high, label) VALUES ($, $1, $2)" =
      .ok (.insert addRange) := by decide +kernel
  refine ⟨hs, ?_⟩
  have hok : (generate rangeRegistry "AddRange" .exec (.insert addRange)).toOption.isSome = true := by
    decide +kernel
  obtain ⟨q, hq⟩ := Option.isSome_iff_exists.1 hok
  have hq := toOption_eq_some.1 hq
  obtain ⟨t, ht, hfits⟩ := generate_fits_iff hs hq
  obtain ⟨record, f, first, hrecord, hf, hfirst, -, -, hiff⟩ := hfits 0 (by decide +kernel)
  have htable : rangeRegistry.table "ranges" =
      .ok ⟨"ranges", [.plain "low" .int, .plain "high" .int, .plain "label" .text]⟩ := by
    decide +kernel
  obtain rfl := Except.ok.inj (ht.symm.trans htable)
  obtain rfl := Option.some.inj (hfirst.symm.trans (by decide +kernel : _ = some ⟨"LOW", .param 1⟩))
  have hall := hiff.2 (by decide +kernel)
  exact ⟨q, _, record, f, hq, ht, hrecord, hf, hall ⟨"LOW", .param 1⟩ (by decide +kernel),
    hall ⟨"HIGH", .param 1⟩ (by decide +kernel)⟩

/-- An integer column and a text column share a position. -/
def findRanges : Select :=
  ⟨false, ["*"], "ranges", [⟨none, "LOW", .eq, ⟨"LOW", .param 1⟩⟩,
    ⟨some .and, "LABEL", .eq, ⟨"LABEL", .param 1⟩⟩], none, none⟩

/-- The text column has a field that is an integer. -/
theorem generate_fits_first_only :
    parseQuery "SELECT * FROM ranges WHERE low = $1 AND label = $" = .ok (.select findRanges) ∧
      ∃ q t record, generate rangeRegistry "FindRanges" .many (.select findRanges) = .ok q ∧
        rangeRegistry.table "ranges" = .ok t ∧ q.params? = some record ∧
        record.fields.map GoField.type = [.int] ∧
        ⟨"LABEL", .param 1⟩ ∈ (Statement.select findRanges).withDensePositions.binds ∧
        rangeRegistry.resolved? t "LABEL" = some .string := by
  refine ⟨by decide +kernel, ?_⟩
  have hok : ((generate rangeRegistry "FindRanges" .many (.select findRanges)).toOption.bind
      GeneratedQuery.params?).map (fun record => record.fields.map GoField.type) = some [.int] := by
    decide +kernel
  obtain ⟨record, hrecord, htypes⟩ := Option.map_eq_some_iff.1 hok
  obtain ⟨q, hq, hrecord⟩ := Option.bind_eq_some_iff.1 hrecord
  have htable : rangeRegistry.table "ranges" =
      .ok ⟨"ranges", [.plain "low" .int, .plain "high" .int, .plain "label" .text]⟩ := by
    decide +kernel
  exact ⟨q, _, record, toOption_eq_some.1 hq, htable, hrecord, htypes, by decide +kernel,
    by decide +kernel⟩

end TypedQueries
