import Mathlib.Data.List.Pairwise
import Mathlib.Data.List.Range
import Mathlib.Data.List.Sort
import TypedQueries.Fallible
import TypedQueries.Generation.Params

/-!
The entries that placeholders are collected into: one for each position, in ascending order, made of
the first bind at that position.
-/

namespace TypedQueries.Params

variable {α : Type}

/-- Entries in ascending order of positions. -/
def Ascending (entries : List (Nat × α)) : Prop := entries.Pairwise fun a b => a.1 < b.1

theorem mem_insertPosition {position : Nat} {a : α} {entries : List (Nat × α)}
    (h : Ascending entries) {k : Nat} {b : α} :
    (k, b) ∈ insertPosition position a entries ↔
      (k, b) ∈ entries ∨ (k = position ∧ b = a ∧ ∀ c, (position, c) ∉ entries) := by
  induction entries with
  | nil => simp [insertPosition]
  | cons entry rest ih =>
    obtain ⟨p, d⟩ := entry
    obtain ⟨hp, hrest⟩ := List.pairwise_cons.1 h
    unfold insertPosition
    split
    · rename_i hlt
      -- all entries lie behind the new one
      have hfresh : ∀ c, (position, c) ∉ (p, d) :: rest := by
        intro c hc
        rcases List.mem_cons.1 hc with heq | hc
        · cases heq
          omega
        · have := hp _ hc
          omega
      rw [List.mem_cons, Prod.mk.injEq]
      constructor
      · rintro (⟨rfl, rfl⟩ | hmem)
        · exact Or.inr ⟨rfl, rfl, hfresh⟩
        · exact Or.inl hmem
      · rintro (hmem | ⟨rfl, rfl, -⟩)
        · exact Or.inr hmem
        · exact Or.inl ⟨rfl, rfl⟩
    · split
      · rename_i heq
        subst heq
        constructor
        · exact Or.inl
        · rintro (hmem | ⟨-, -, hfresh⟩)
          · exact hmem
          · exact absurd List.mem_cons_self (hfresh d)
      · rename_i hlt hne
        have hfresh : (∀ c, (position, c) ∉ (p, d) :: rest) ↔ ∀ c, (position, c) ∉ rest := by
          simp [hne]
        rw [List.mem_cons, ih hrest, List.mem_cons, hfresh, or_assoc]

theorem ascending_insertPosition {position : Nat} {a : α} {entries : List (Nat × α)}
    (h : Ascending entries) : Ascending (insertPosition position a entries) := by
  induction entries with
  | nil => simp [insertPosition, Ascending]
  | cons entry rest ih =>
    obtain ⟨p, d⟩ := entry
    obtain ⟨hp, hrest⟩ := List.pairwise_cons.1 h
    unfold insertPosition
    split
    · rename_i hlt
      refine List.pairwise_cons.2 ⟨?_, h⟩
      intro e he
      rcases List.mem_cons.1 he with rfl | he
      · exact hlt
      · exact Nat.lt_trans hlt (hp e he)
    · split
      · exact h
      · refine List.pairwise_cons.2 ⟨?_, ih hrest⟩
        rintro ⟨k, b⟩ hb
        rcases (mem_insertPosition hrest).1 hb with hb | ⟨rfl, -, -⟩
        · exact hp _ hb
        · simp only
          omega

/-- The first bind of a placeholder with the given position. -/
def firstAt (binds : List Bind) (position : Nat) : Option Bind :=
  binds.find? fun b => b.value == .param position

theorem firstAt_cons_self {b : Bind} {position : Nat} (h : b.value = .param position)
    (binds : List Bind) : firstAt (b :: binds) position = some b := by
  simp [firstAt, h]

theorem firstAt_cons_of_ne {b : Bind} {position : Nat} (h : b.value ≠ .param position)
    (binds : List Bind) : firstAt (b :: binds) position = firstAt binds position := by
  simp [firstAt, h]

/-- One step of `byPosition`. -/
def collect (typeOf : String → Except CompileError GoType) (entries : List (Nat × TypedColumn))
    (b : Bind) : Except CompileError (List (Nat × TypedColumn)) := do
  let type ← typeOf b.column
  match b.value with
  | .param position => return insertPosition position ⟨b.column, type⟩ entries
  | .literal _ => return entries

theorem byPosition_eq (typeOf : String → Except CompileError GoType) (binds : List Bind) :
    byPosition typeOf binds = binds.foldlM (collect typeOf) [] := rfl

variable {typeOf : String → Except CompileError GoType}

/-- Whether an entry is made of the first of `binds` at its position. -/
def MadeOf (typeOf : String → Except CompileError GoType) (binds : List Bind)
    (entry : Nat × TypedColumn) : Prop :=
  ∃ b, firstAt binds entry.1 = some b ∧ entry.2.column = b.column ∧
    typeOf b.column = .ok entry.2.type

/-- The step of one placeholder: what it adds to the entries is what its bind makes at a position
that these leave free. -/
theorem mem_insertPosition_or_madeOf {b : Bind} {binds : List Bind} {position : Nat} {type : GoType}
    {entries : List (Nat × TypedColumn)} (hasc : Ascending entries)
    (hb : b.value = .param position) (htype : typeOf b.column = .ok type) (k : Nat)
    (c : TypedColumn) :
    ((k, c) ∈ insertPosition position ⟨b.column, type⟩ entries ∨
        ((∀ d, (k, d) ∉ insertPosition position ⟨b.column, type⟩ entries) ∧
          MadeOf typeOf binds (k, c))) ↔
      (k, c) ∈ entries ∨ ((∀ d, (k, d) ∉ entries) ∧ MadeOf typeOf (b :: binds) (k, c)) := by
  rw [mem_insertPosition hasc]
  by_cases hk : k = position
  · subst hk
    have hfirst : MadeOf typeOf (b :: binds) (k, c) ↔ c = ⟨b.column, type⟩ := by
      rw [MadeOf, firstAt_cons_self hb]
      obtain ⟨column, type'⟩ := c
      simp [htype, eq_comm]
    have htaken : ¬ ∀ d, (k, d) ∉ insertPosition k ⟨b.column, type⟩ entries := by
      intro hfree
      apply hfree ⟨b.column, type⟩
      rw [mem_insertPosition hasc]
      refine Or.inr ⟨rfl, rfl, fun d hd => hfree d ?_⟩
      exact (mem_insertPosition hasc).2 (Or.inl hd)
    simp only [htaken, hfirst, false_and, or_false, true_and, and_comm]
  · have hfirst : MadeOf typeOf (b :: binds) (k, c) ↔ MadeOf typeOf binds (k, c) := by
      rw [MadeOf, MadeOf, firstAt_cons_of_ne (by simpa [hb] using Ne.symm hk)]
    have hfree : (∀ d, (k, d) ∉ insertPosition position ⟨b.column, type⟩ entries) ↔
        ∀ d, (k, d) ∉ entries := by
      simp [mem_insertPosition hasc, hk]
    simp [hk, hfirst, hfree]

/-- What is collected besides `entries` is made of the binds at the positions that these leave free. -/
theorem foldlM_collect {binds : List Bind} {entries result : List (Nat × TypedColumn)}
    (hasc : Ascending entries) (h : binds.foldlM (collect typeOf) entries = .ok result) :
    Ascending result ∧ ∀ k c, (k, c) ∈ result ↔
      (k, c) ∈ entries ∨ ((∀ d, (k, d) ∉ entries) ∧ MadeOf typeOf binds (k, c)) := by
  induction binds generalizing entries with
  | nil =>
    cases h
    exact ⟨hasc, fun k c => by simp [MadeOf, firstAt]⟩
  | cons b binds ih =>
    rw [List.foldlM_cons] at h
    obtain ⟨entries', h1, h⟩ := bind_eq_ok.1 h
    obtain ⟨type, htype, h1⟩ := bind_eq_ok.1 h1
    cases hb : b.value with
    | literal value =>
      rw [hb] at h1
      cases h1
      obtain ⟨hresult, hmem⟩ := ih hasc h
      refine ⟨hresult, fun k c => ?_⟩
      rw [hmem, MadeOf, MadeOf, firstAt_cons_of_ne (by simp [hb])]
    | param position =>
      rw [hb] at h1
      cases h1
      obtain ⟨hresult, hmem⟩ := ih (ascending_insertPosition hasc) h
      exact ⟨hresult, fun k c => (hmem k c).trans (mem_insertPosition_or_madeOf hasc hb htype k c)⟩

/-- There is an entry exactly for the positions of placeholders, in ascending order, and each is made
of the first bind at its position. -/
theorem byPosition_spec {binds : List Bind} {entries : List (Nat × TypedColumn)}
    (h : byPosition typeOf binds = .ok entries) :
    Ascending entries ∧ ∀ k c, (k, c) ∈ entries ↔ MadeOf typeOf binds (k, c) := by
  rw [byPosition_eq] at h
  obtain ⟨hasc, hmem⟩ := foldlM_collect List.Pairwise.nil h
  exact ⟨hasc, fun k c => by simpa using hmem k c⟩

/-- The columns of all binds have a type. -/
theorem typeOf_of_foldlM {binds : List Bind} {entries result : List (Nat × TypedColumn)}
    (h : binds.foldlM (collect typeOf) entries = .ok result) {b : Bind} (hb : b ∈ binds) :
    ∃ type, typeOf b.column = .ok type := by
  induction binds generalizing entries with
  | nil => cases hb
  | cons c binds ih =>
    rw [List.foldlM_cons] at h
    obtain ⟨entries', h1, h⟩ := bind_eq_ok.1 h
    rcases List.mem_cons.1 hb with rfl | hb
    · obtain ⟨type, htype, -⟩ := bind_eq_ok.1 h1
      exact ⟨type, htype⟩
    · exact ih h hb

/-- If the placeholders have the positions from 1 to `n`, there is one entry for each. -/
theorem keys_byPosition {binds : List Bind} {entries : List (Nat × TypedColumn)} {n : Nat}
    (h : byPosition typeOf binds = .ok entries)
    (hbinds : ∀ k, (∃ b ∈ binds, b.value = .param k) ↔ 1 ≤ k ∧ k ≤ n) :
    entries.map Prod.fst = List.range' 1 n := by
  obtain ⟨hasc, hmem⟩ := byPosition_spec h
  have hkeys : (entries.map Prod.fst).Pairwise (· < ·) := List.pairwise_map.2 hasc
  refine hkeys.eq_of_mem_iff (List.pairwise_lt_range' ..) fun k => ?_
  have hrange : k ∈ List.range' 1 n ↔ 1 ≤ k ∧ k ≤ n := by
    rw [List.mem_range'_1]
    omega
  rw [hrange, ← hbinds]
  constructor
  · intro hk
    obtain ⟨⟨k, c⟩, hc, rfl⟩ := List.mem_map.1 hk
    obtain ⟨b, hb, -⟩ := (hmem k c).1 hc
    exact ⟨b, List.mem_of_find?_eq_some hb, by simpa using List.find?_some hb⟩
  · rintro ⟨b, hb, hbk⟩
    obtain ⟨first, hfirst⟩ : ∃ first, firstAt binds k = some first := by
      rw [← Option.isSome_iff_exists, firstAt, List.find?_isSome]
      exact ⟨b, hb, by simp [hbk]⟩
    obtain ⟨type, htype⟩ := typeOf_of_foldlM h (List.mem_of_find?_eq_some hfirst)
    exact List.mem_map.2 ⟨(k, ⟨first.column, type⟩), (hmem _ _).2 ⟨first, hfirst, rfl, htype⟩, rfl⟩

/-- The entry for a position stands at its place. -/
theorem position_of_getElem? {entries : List (Nat × α)} {n k : Nat} {entry : Nat × α}
    (hkeys : entries.map Prod.fst = List.range' 1 n) (hentry : entries[k]? = some entry) :
    entry.1 = k + 1 := by
  have hk := congrArg (·[k]?) hkeys
  simp only [List.getElem?_map, hentry, Option.map_some] at hk
  obtain ⟨hlt, hk⟩ := List.getElem?_eq_some_iff.1 hk.symm
  rw [List.getElem_range'] at hk
  omega

theorem map_type_fields (taken : List String) (entries : List (Nat × TypedColumn)) :
    (fields taken entries).map GoField.type = entries.map fun entry => entry.2.type := by
  induction entries generalizing taken with
  | nil => rfl
  | cons entry rest ih =>
    obtain ⟨position, c⟩ := entry
    simp [fields, ih]

end TypedQueries.Params
