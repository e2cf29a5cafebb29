import Mathlib.Data.Finset.Card
import Mathlib.Data.Finset.Dedup
import Mathlib.Order.Interval.Finset.Nat
import TypedQueries.Query.Positions

/-!
Renumbering gives the positions of a statement the numbers from 1 on: it keeps their order, and the
numbers it gives are exactly those up to the number of distinct positions. Sorted and without
repetitions the positions are strictly ascending, where a binary search finds each at its own place.
-/

namespace TypedQueries

def BindValue.position? : BindValue → Option Nat
  | .param position => some position
  | .literal _ => none

namespace Statement

/-- The positions of a statement's placeholders in source order. -/
def placeholders (s : Statement) : List Nat := s.binds.filterMap fun b => b.value.position?

/-- How many positions a statement uses. -/
def arity (s : Statement) : Nat := s.placeholders.toFinset.card

end Statement

theorem Statement.mem_placeholders {s : Statement} {k : Nat} :
    k ∈ s.placeholders ↔ ∃ b ∈ s.binds, b.value = .param k := by
  rw [placeholders, List.mem_filterMap]
  constructor
  · rintro ⟨⟨column, value⟩, hb, hk⟩
    cases value with
    | param position =>
      cases hk
      exact ⟨_, hb, rfl⟩
    | literal _ => cases hk
  · rintro ⟨b, hb, hk⟩
    exact ⟨b, hb, by simp [hk, BindValue.position?]⟩

/-- A bind with another number for its placeholder. -/
def Bind.mapPosition (f : Nat → Nat) (b : Bind) : Bind :=
  match b.value with
  | .param position => { b with value := .param (f position) }
  | .literal _ => b

@[simp]
theorem Bind.column_mapPosition (f : Nat → Nat) (b : Bind) : (b.mapPosition f).column = b.column := by
  unfold mapPosition
  split <;> rfl

theorem Bind.position?_mapPosition (f : Nat → Nat) (b : Bind) :
    (b.mapPosition f).value.position? = b.value.position?.map f := by
  obtain ⟨column, value⟩ := b
  cases value <;> rfl

/-- A statement with other numbers for its placeholders. -/
def Statement.mapPositions (f : Nat → Nat) (s : Statement) : Statement :=
  s.mapBinds (Bind.mapPosition f)

theorem Statement.withDensePositions_eq (s : Statement) :
    s.withDensePositions = s.mapPositions (densePosition s.positions) := rfl

theorem Statement.placeholders_mapPositions (f : Nat → Nat) (s : Statement) :
    (s.mapPositions f).placeholders = s.placeholders.map f := by
  simp only [placeholders, mapPositions, binds_mapBinds, List.filterMap_map, List.map_filterMap]
  congr 1
  funext b
  exact b.position?_mapPosition f

section Sorting

theorem perm_insertAscending (p : Nat) (qs : List Nat) : (insertAscending p qs).Perm (p :: qs) := by
  induction qs with
  | nil => exact .refl _
  | cons q qs ih =>
    rw [insertAscending]
    split
    · exact .refl _
    · exact (ih.cons q).trans (.swap p q qs)

theorem perm_sortAscending (ps : List Nat) : (sortAscending ps).Perm ps := by
  induction ps with
  | nil => exact .refl _
  | cons p ps ih => exact (perm_insertAscending p _).trans (ih.cons p)

theorem pairwise_insertAscending {p : Nat} {qs : List Nat} (h : qs.Pairwise (· ≤ ·)) :
    (insertAscending p qs).Pairwise (· ≤ ·) := by
  induction qs with
  | nil => exact List.pairwise_singleton _ p
  | cons q qs ih =>
    obtain ⟨hq, hqs⟩ := List.pairwise_cons.1 h
    rw [insertAscending]
    split
    · rename_i hle
      refine List.pairwise_cons.2 ⟨List.forall_mem_cons.2 ⟨hle, fun r hr => ?_⟩, h⟩
      exact Nat.le_trans hle (hq r hr)
    · rename_i hlt
      refine List.pairwise_cons.2 ⟨fun r hr => ?_, ih hqs⟩
      rcases List.mem_cons.1 ((perm_insertAscending p qs).mem_iff.1 hr) with rfl | hr
      · exact Nat.le_of_lt (Nat.lt_of_not_le hlt)
      · exact hq r hr

theorem pairwise_sortAscending (ps : List Nat) : (sortAscending ps).Pairwise (· ≤ ·) := by
  induction ps with
  | nil => exact .nil
  | cons p ps ih => exact pairwise_insertAscending ih

theorem mem_dropRepeats {p : Nat} {ps : List Nat} : p ∈ dropRepeats ps ↔ p ∈ ps := by
  fun_induction dropRepeats ps with
  | case1 => rfl
  | case2 => rfl
  | case3 q qs ih => simp [ih]
  | case4 p' q qs hne ih => simp [ih]

/-- What is left of an ascending list is strictly ascending. -/
theorem pairwise_dropRepeats {ps : List Nat} (h : ps.Pairwise (· ≤ ·)) :
    (dropRepeats ps).Pairwise (· < ·) := by
  fun_induction dropRepeats ps with
  | case1 => exact .nil
  | case2 p => exact List.pairwise_singleton _ p
  | case3 q qs ih => exact ih h.tail
  | case4 p q qs hne ih =>
    refine List.pairwise_cons.2 ⟨fun r hr => ?_, ih h.tail⟩
    obtain ⟨hp, hqs⟩ := List.pairwise_cons.1 h
    have hpq : p < q := Nat.lt_of_le_of_ne (hp q List.mem_cons_self) hne
    rcases List.mem_cons.1 (mem_dropRepeats.1 hr) with rfl | hr
    · exact hpq
    · exact Nat.lt_of_lt_of_le hpq ((List.pairwise_cons.1 hqs).1 r hr)

end Sorting

section Search

variable {ps : List Nat}

theorem lt_iff_of_getElem? (hps : ps.Pairwise (· < ·)) {i j p q : Nat} (hp : ps[i]? = some p)
    (hq : ps[j]? = some q) : p < q ↔ i < j := by
  obtain ⟨hi, rfl⟩ := List.getElem?_eq_some_iff.1 hp
  obtain ⟨hj, rfl⟩ := List.getElem?_eq_some_iff.1 hq
  have hlt {i j : Nat} (hi : i < ps.length) (hj : j < ps.length) (h : i < j) : ps[i] < ps[j] :=
    List.pairwise_iff_getElem.1 hps i j hi hj h
  refine ⟨fun h => ?_, hlt hi hj⟩
  rcases Nat.lt_trichotomy i j with hij | rfl | hij
  · exact hij
  · exact absurd h (Nat.lt_irrefl _)
  · exact absurd (hlt hj hi hij) (Nat.lt_asymm h)

/-- The invariant of the search: the place of `p` is in the window. -/
theorem narrow_eq (hps : ps.Pairwise (· < ·)) {p base size place : Nat}
    (hplace : ps[place]? = some p) (hbase : base ≤ place) (hsize : place < base + size)
    (hlength : base + size ≤ ps.length) : narrow ps p base size = place := by
  have hside {middle : Nat} (hmiddle : middle < ps.length) : p < ps.getD middle 0 ↔ place < middle := by
    refine lt_iff_of_getElem? hps hplace ?_
    simp [List.getD_eq_getElem?_getD, hmiddle]
  fun_induction narrow ps p base size with
  | case1 base size hlarge middle hlt ih =>
    have hmiddle : middle = base + size / 2 := rfl
    have := (hside (by omega)).1 hlt
    exact ih hbase (by omega) (by omega)
  | case2 base size hlarge middle hnot ih =>
    have hmiddle : middle = base + size / 2 := rfl
    have := mt (hside (by omega)).2 hnot
    exact ih (by omega) (by omega) (by omega)
  | case3 base size hsmall => omega

theorem binarySearch?_eq_some_iff (hps : ps.Pairwise (· < ·)) {p place : Nat} :
    binarySearch? ps p = some place ↔ ps[place]? = some p := by
  constructor
  · intro h
    simp only [binarySearch?] at h
    split at h <;> cases h
    assumption
  · intro h
    have hlt := (List.getElem?_eq_some_iff.1 h).1
    have hnarrow := narrow_eq hps h (Nat.zero_le _) (by simpa using hlt) (by simp)
    simp [binarySearch?, hnarrow, h]

/-- The number of a position is its place, counted from 1. -/
theorem exists_place_of_mem (hps : ps.Pairwise (· < ·)) {p : Nat} (hp : p ∈ ps) :
    ∃ place, ps[place]? = some p ∧ densePosition ps p = place + 1 := by
  obtain ⟨place, hplace⟩ := List.mem_iff_getElem?.1 hp
  refine ⟨place, hplace, ?_⟩
  rw [densePosition, (binarySearch?_eq_some_iff hps).2 hplace]

theorem densePosition_lt (hps : ps.Pairwise (· < ·)) {p q : Nat} (hp : p ∈ ps) (hq : q ∈ ps)
    (hlt : p < q) : densePosition ps p < densePosition ps q := by
  obtain ⟨i, hi, hdense⟩ := exists_place_of_mem hps hp
  obtain ⟨j, hj, hdense'⟩ := exists_place_of_mem hps hq
  rw [hdense, hdense']
  exact Nat.succ_lt_succ ((lt_iff_of_getElem? hps hi hj).1 hlt)

/-- Ascending positions get all numbers from 1 to their count. -/
theorem mem_map_densePosition (hps : ps.Pairwise (· < ·)) {k : Nat} :
    k ∈ ps.map (densePosition ps) ↔ 1 ≤ k ∧ k ≤ ps.length := by
  rw [List.mem_map]
  constructor
  · rintro ⟨p, hp, rfl⟩
    obtain ⟨place, hplace, hdense⟩ := exists_place_of_mem hps hp
    have hlt := (List.getElem?_eq_some_iff.1 hplace).1
    omega
  · rintro ⟨hpos, hle⟩
    have hlt : k - 1 < ps.length := by omega
    refine ⟨ps[k - 1], List.getElem_mem hlt, ?_⟩
    have hplace : ps[k - 1]? = some ps[k - 1] := List.getElem?_eq_getElem hlt
    rw [densePosition, (binarySearch?_eq_some_iff hps).2 hplace]
    exact Nat.sub_add_cancel hpos

end Search

theorem Statement.mem_positions {s : Statement} {p : Nat} :
    p ∈ s.positions ↔ 0 < p ∧ p ∈ s.placeholders := by
  simp only [positions, mem_dropRepeats, (perm_sortAscending _).mem_iff, mem_placeholders,
    List.mem_filter, List.mem_map, decide_eq_true_eq]
  constructor
  · rintro ⟨⟨⟨column, value⟩, hb, rfl⟩, hpos⟩
    cases value with
    | param position => exact ⟨hpos, _, hb, rfl⟩
    | literal _ => exact absurd hpos (Nat.lt_irrefl 0)
  · rintro ⟨hpos, b, hb, hp⟩
    exact ⟨⟨b, hb, by simp [Bind.position, hp]⟩, hpos⟩

theorem Statement.pairwise_positions (s : Statement) : s.positions.Pairwise (· < ·) :=
  pairwise_dropRepeats (pairwise_sortAscending _)

namespace Statement

variable {s : Statement}

theorem length_positions (hs : ∀ p ∈ s.placeholders, 1 ≤ p) : s.positions.length = s.arity := by
  have hnodup : s.positions.Nodup := s.pairwise_positions.imp Nat.ne_of_lt
  rw [arity, ← List.toFinset_card_of_nodup hnodup]
  congr 1
  ext p
  rw [List.mem_toFinset, List.mem_toFinset]
  exact mem_positions.trans ⟨And.right, fun hp => ⟨hs p hp, hp⟩⟩

/-- Renumbering keeps the order of positions. -/
theorem strictMonoOn_densePosition (hs : ∀ p ∈ s.placeholders, 1 ≤ p) :
    StrictMonoOn (densePosition s.positions) {p | p ∈ s.placeholders} := by
  intro p hp q hq hlt
  have hmem {p : Nat} (hp : p ∈ s.placeholders) : p ∈ s.positions := mem_positions.2 ⟨hs p hp, hp⟩
  exact densePosition_lt s.pairwise_positions (hmem hp) (hmem hq) hlt

/-- The positions of a renumbered statement are those from 1 to their number. -/
theorem mem_placeholders_withDensePositions (hs : ∀ p ∈ s.placeholders, 1 ≤ p) (k : Nat) :
    k ∈ s.withDensePositions.placeholders ↔ 1 ≤ k ∧ k ≤ s.arity := by
  rw [withDensePositions_eq, placeholders_mapPositions, ← length_positions hs,
    ← mem_map_densePosition s.pairwise_positions, List.mem_map, List.mem_map]
  constructor
  · rintro ⟨p, hp, rfl⟩
    exact ⟨p, mem_positions.2 ⟨hs p hp, hp⟩, rfl⟩
  · rintro ⟨p, hp, rfl⟩
    exact ⟨p, (mem_positions.1 hp).2, rfl⟩

end Statement

end TypedQueries
