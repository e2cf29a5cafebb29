import Mathlib.Data.Finset.Image
import Mathlib.Data.Set.Function
import Mathlib.Order.WellFounded
import TypedQueries.Proofs.DensePositions

/-!
There is one way only to number the positions of a statement from 1 on and keep their order. So it
does not matter which numbers they had before, as long as the order is the same, and a statement
that was renumbered once stays as it is.
-/

namespace TypedQueries

theorem Bind.mapPosition_mapPosition (f g : Nat → Nat) (b : Bind) :
    (b.mapPosition g).mapPosition f = b.mapPosition (f ∘ g) := by
  obtain ⟨column, value⟩ := b
  cases value <;> rfl

namespace Statement

theorem mapBinds_mapBinds (f g : Bind → Bind) (s : Statement) :
    (s.mapBinds g).mapBinds f = s.mapBinds (f ∘ g) := by
  cases s <;> simp [mapBinds, Function.comp_def]

theorem mapBinds_congr {f g : Bind → Bind} {s : Statement} (h : ∀ b ∈ s.binds, f b = g b) :
    s.mapBinds f = s.mapBinds g := by
  cases s with
  | select s =>
    have hconditions : ∀ c ∈ s.conditions, ({ c with bind := f c.bind } : Condition) =
        { c with bind := g c.bind } := fun c hc => by rw [h c.bind (List.mem_map_of_mem hc)]
    simp only [mapBinds, List.map_congr_left hconditions]
  | insert i => simp only [mapBinds, List.map_congr_left (l := i.values) h]

theorem mapPositions_mapPositions (f g : Nat → Nat) (s : Statement) :
    (s.mapPositions g).mapPositions f = s.mapPositions (f ∘ g) := by
  simp only [mapPositions, mapBinds_mapBinds]
  congr 1
  funext b
  exact b.mapPosition_mapPosition f g

/-- Only the numbers of the positions that are there count. -/
theorem mapPositions_congr {f g : Nat → Nat} {s : Statement}
    (h : ∀ p ∈ s.placeholders, f p = g p) : s.mapPositions f = s.mapPositions g := by
  apply mapBinds_congr
  rintro ⟨column, value⟩ hb
  cases value with
  | param position =>
    have hposition := h position (mem_placeholders.2 ⟨_, hb, rfl⟩)
    simp only [Bind.mapPosition, hposition]
  | literal _ => rfl

variable {s : Statement}

theorem arity_mapPositions {g : Nat → Nat} (hg : Set.InjOn g {p | p ∈ s.placeholders}) :
    (s.mapPositions g).arity = s.arity := by
  have himage : (s.placeholders.map g).toFinset = s.placeholders.toFinset.image g := by
    ext k
    simp
  rw [arity, arity, placeholders_mapPositions, himage]
  exact Finset.card_image_of_injOn fun p hp q hq heq =>
    hg (List.mem_toFinset.1 hp) (List.mem_toFinset.1 hq) heq

/-- How a statement may be numbered from 1 on: in the order of its positions, with each number up to
their count. -/
structure Numbers (s : Statement) (f : Nat → Nat) : Prop where
  strictMonoOn : StrictMonoOn f {p | p ∈ s.placeholders}
  mem_iff : ∀ k, k ∈ s.placeholders.map f ↔ 1 ≤ k ∧ k ≤ s.arity

theorem numbers_densePosition (hs : ∀ p ∈ s.placeholders, 1 ≤ p) :
    s.Numbers (densePosition s.positions) := by
  refine ⟨strictMonoOn_densePosition hs, fun k => ?_⟩
  rw [← placeholders_mapPositions, ← withDensePositions_eq]
  exact mem_placeholders_withDensePositions hs k

namespace Numbers

variable {f f' : Nat → Nat}

theorem bijOn (h : s.Numbers f) : Set.BijOn f {p | p ∈ s.placeholders} (Set.Icc 1 s.arity) := by
  refine ⟨fun p hp => ?_, h.strictMonoOn.injOn, fun k hk => ?_⟩
  · exact (h.mem_iff (f p)).1 (List.mem_map_of_mem hp)
  · exact List.mem_map.1 ((h.mem_iff k).2 hk)

theorem compare_eq (h : s.Numbers f) {p q : Nat} (hp : p ∈ s.placeholders)
    (hq : q ∈ s.placeholders) : compare (f p) (f q) = compare p q := by
  rcases Nat.lt_trichotomy p q with hlt | rfl | hlt
  · rw [Nat.compare_eq_lt.2 hlt, Nat.compare_eq_lt.2 (h.strictMonoOn hp hq hlt)]
  · rw [Nat.compare_eq_eq.2 rfl, Nat.compare_eq_eq.2 rfl]
  · rw [Nat.compare_eq_gt.2 hlt, Nat.compare_eq_gt.2 (h.strictMonoOn hq hp hlt)]

/-- Two ways to number a statement give its positions the same numbers. -/
theorem eqOn (h : s.Numbers f) (h' : s.Numbers f') : ∀ p ∈ s.placeholders, f p = f' p := by
  have hrange {f : Nat → Nat} (h : s.Numbers f) :
      Set.range (fun p : {p // p ∈ s.placeholders} => f p) = Set.Icc 1 s.arity := by
    ext k
    rw [Set.mem_Icc, ← h.mem_iff k]
    simp
  have hmono {f : Nat → Nat} (h : s.Numbers f) :
      StrictMono fun p : {p // p ∈ s.placeholders} => f p :=
    fun p q hlt => h.strictMonoOn p.2 q.2 hlt
  have heq := ((hmono h).range_inj (hmono h')).1 ((hrange h).trans (hrange h').symm)
  exact fun p hp => congrFun heq ⟨p, hp⟩

end Numbers

/-- What is numbered after other numbers in the same order is numbered as before. -/
theorem withDensePositions_mapPositions {g : Nat → Nat} (hs : ∀ p ∈ s.placeholders, 1 ≤ p)
    (hg : StrictMonoOn g {p | p ∈ s.placeholders}) (hpos : ∀ p ∈ s.placeholders, 1 ≤ g p) :
    (s.mapPositions g).withDensePositions = s.withDensePositions := by
  have hplaceholders := placeholders_mapPositions g s
  have hs' : ∀ p ∈ (s.mapPositions g).placeholders, 1 ≤ p := by
    rw [hplaceholders]
    exact List.forall_mem_map.2 hpos
  have hdense := numbers_densePosition hs'
  have hcomp : s.Numbers (densePosition (s.mapPositions g).positions ∘ g) := by
    constructor
    · intro p hp q hq hlt
      have hmem {p : Nat} (hp : p ∈ s.placeholders) : g p ∈ (s.mapPositions g).placeholders := by
        rw [hplaceholders]
        exact List.mem_map_of_mem hp
      exact hdense.strictMonoOn (hmem hp) (hmem hq) (hg hp hq hlt)
    · intro k
      rw [← List.map_map, ← hplaceholders, hdense.mem_iff, arity_mapPositions hg.injOn]
  rw [withDensePositions_eq, withDensePositions_eq, mapPositions_mapPositions]
  exact mapPositions_congr (hcomp.eqOn (numbers_densePosition hs))

theorem withDensePositions_withDensePositions (hs : ∀ p ∈ s.placeholders, 1 ≤ p) :
    s.withDensePositions.withDensePositions = s.withDensePositions := by
  have hdense := numbers_densePosition hs
  rw [withDensePositions_eq s]
  exact withDensePositions_mapPositions hs hdense.strictMonoOn fun p hp => (hdense.bijOn.1 hp).1

/-- Renumbering gives the positions of a statement the numbers from 1 to their count, in the same
order, and leaves all else as it is. A second time it changes nothing, and it makes the same of any
other positive numbers in the same order, such as a strictly increasing function gives. -/
theorem withDensePositions_numbers (hs : ∀ p ∈ s.placeholders, 1 ≤ p) :
    (∃ f, s.withDensePositions = s.mapPositions f ∧
      Set.BijOn f {p | p ∈ s.placeholders} (Set.Icc 1 s.arity) ∧
      (∀ p ∈ s.placeholders, ∀ q ∈ s.placeholders, compare (f p) (f q) = compare p q)) ∧
    (∀ k, k ∈ s.withDensePositions.placeholders ↔ 1 ≤ k ∧ k ≤ s.arity) ∧
    s.withDensePositions.withDensePositions = s.withDensePositions ∧
    ∀ g, StrictMonoOn g {p | p ∈ s.placeholders} → (∀ p ∈ s.placeholders, 1 ≤ g p) →
      (s.mapPositions g).withDensePositions = s.withDensePositions := by
  have hdense := numbers_densePosition hs
  refine ⟨⟨_, rfl, hdense.bijOn, fun p hp q hq => hdense.compare_eq hp hq⟩,
    mem_placeholders_withDensePositions hs, withDensePositions_withDensePositions hs,
    fun g hg hpos => withDensePositions_mapPositions hs hg hpos⟩

/-- Positions with gaps and a repetition, and a literal between them. -/
def gappedUsers : Statement :=
  .select ⟨false, [], "users",
    [⟨none, "EMAIL", .eq, ⟨"EMAIL", .param 7⟩⟩,
      ⟨some .and, "ROLE", .eq, ⟨"ROLE", .literal (.integer 3)⟩⟩,
      ⟨some .or, "ID", .eq, ⟨"ID", .param 3⟩⟩, ⟨some .or, "NAME", .eq, ⟨"NAME", .param 7⟩⟩],
    none, none⟩

theorem withDensePositions_gappedUsers :
    (∀ p ∈ gappedUsers.placeholders, 1 ≤ p) ∧
      gappedUsers.withDensePositions.placeholders = [2, 1, 2] ∧
      gappedUsers.withDensePositions.withDensePositions = gappedUsers.withDensePositions ∧
      (gappedUsers.mapPositions (10 * ·)).withDensePositions = gappedUsers.withDensePositions := by
  have hs : ∀ p ∈ gappedUsers.placeholders, 1 ≤ p := by decide
  obtain ⟨-, -, htwice, hother⟩ := withDensePositions_numbers hs
  refine ⟨hs, by decide +kernel, htwice, hother (10 * ·) ?_ ?_⟩
  · intro p _ q _ hlt
    exact Nat.mul_lt_mul_of_pos_left hlt (by decide)
  · intro p hp
    have := hs p hp
    omega

end Statement

end TypedQueries
