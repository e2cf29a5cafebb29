import Mathlib.Tactic.ByContra
import TypedQueries.Text.Alphanumeric

/-!
Facts about tables of characters, settled run by run: two tables have no character in common if
their runs lie apart, and what holds of every point of a table holds of every character in it.
-/

namespace TypedQueries.Text

namespace Run

/-- Whether one of two runs ends before the other begins. -/
def apart (r s : Run) : Bool := Nat.blt r.last s.first || Nat.blt s.last r.first

theorem bounds_of_contains {r : Run} {n : Nat} (h : r.contains n = true) :
    r.first ≤ n ∧ n ≤ r.last := by
  simp only [contains, Bool.and_eq_true, decide_eq_true_eq] at h
  exact h.1

theorem contains_of_apart {r s : Run} {n : Nat} (h : r.apart s = true)
    (hn : r.contains n = true) : s.contains n = false := by
  by_cases hs : s.contains n = true
  · have hr := bounds_of_contains hn
    have hs := bounds_of_contains hs
    simp only [apart, Nat.blt, Bool.or_eq_true, Nat.ble_eq] at h
    omega
  · simpa using hs

/-- The code points of a run, in order. -/
def points (r : Run) : List Nat :=
  (List.range ((r.last - r.first) / r.step + 1)).map fun i => r.first + i * r.step

theorem mem_points {r : Run} {n : Nat} (h : r.contains n = true) : n ∈ r.points := by
  obtain ⟨hfirst, hlast⟩ := bounds_of_contains h
  simp only [contains, Bool.and_eq_true, beq_iff_eq] at h
  have hmul : (n - r.first) / r.step * r.step = n - r.first :=
    Nat.div_mul_cancel (Nat.dvd_of_mod_eq_zero h.2)
  have hle : (n - r.first) / r.step ≤ (r.last - r.first) / r.step :=
    Nat.div_le_div_right (Nat.sub_le_sub_right hlast r.first)
  refine List.mem_map.2 ⟨(n - r.first) / r.step, List.mem_range.2 (Nat.lt_succ_of_le hle), ?_⟩
  omega

end Run

namespace CharSet

/-- Whether the runs of two sets lie apart. -/
def apart (s t : CharSet) : Bool := s.all fun r => t.all r.apart

theorem contains_of_apart {s t : CharSet} {c : Char} (h : s.apart t = true)
    (hc : s.contains c = true) : t.contains c = false := by
  obtain ⟨r, hr, hrc⟩ := (contains_iff s c).1 hc
  simp only [apart, List.all_eq_true] at h
  simp only [contains, List.any_eq_false, Bool.not_eq_true]
  intro r' hr'
  exact Run.contains_of_apart (h r hr r' hr') hrc

/-- The code points of a set, in the order of its runs. -/
def points (s : CharSet) : List Nat := s.flatMap Run.points

theorem mem_points {s : CharSet} {c : Char} (h : s.contains c = true) : c.toNat ∈ s.points := by
  obtain ⟨r, hr, hc⟩ := (contains_iff s c).1 h
  exact List.mem_flatMap.2 ⟨r, hr, Run.mem_points hc⟩

end CharSet

/-- What is known of all seven-bit characters by trying them. -/
theorem forall_isAscii {p : Char → Bool} (h : ∀ n < 128, p (Char.ofNat n) = true) {c : Char}
    (hc : isAscii c = true) : p c = true := by
  have hn := h c.toNat (by simpa [isAscii] using hc)
  rwa [Char.ofNat_toNat] at hn

theorem toLower_of_isAscii_eq_false {c : Char} (h : isAscii c = false) : c.toLower = c := by
  have hn : 128 ≤ c.toNat := by simpa [isAscii] using h
  have hrange : ¬ (c.val ≥ 65 ∧ c.val ≤ 90) := by
    rintro ⟨-, hle⟩
    have : c.val.toNat ≤ 90 := UInt32.le_iff_toNat_le.1 hle
    exact absurd hn (by simp only [Char.toNat]; omega)
  exact dif_neg hrange

/-- What does not tell small from capital seven-bit letters does not tell any letter from its small
form. -/
theorem apply_toLower {α : Type} {f : Char → α}
    (h : ∀ n < 128, f (Char.ofNat n).toLower = f (Char.ofNat n)) (c : Char) :
    f c.toLower = f c := by
  cases hc : isAscii c with
  | true =>
    have hn := h c.toNat (by simpa [isAscii] using hc)
    rwa [Char.ofNat_toNat] at hn
  | false => rw [toLower_of_isAscii_eq_false hc]

/-- A blank ends every word. -/
theorem isBlank_of_isWordPart {c : Char} (h : isWordPart c = true) : isBlank c = false := by
  have halpha : CharSet.apart alphabeticRuns blankRuns = true := by decide +kernel
  have hnum : CharSet.apart numericRuns blankRuns = true := by decide +kernel
  have hascii : ∀ n ∈ CharSet.points blankRuns, n < 128 → isWordPart (Char.ofNat n) = false := by
    decide +kernel
  by_cases hc : isAscii c = true
  · by_contra hb
    have hn := CharSet.mem_points (by simpa using hb : isBlank c = true)
    rw [← Char.ofNat_toNat c, hascii c.toNat hn (by simpa [isAscii] using hc)] at h
    cases h
  · simp only [isWordPart, isAlphanumeric, isAlphabetic, isNumeric, hc, Bool.or_eq_true,
      beq_iff_eq] at h
    rcases h with (h | h) | rfl
    · exact CharSet.contains_of_apart halpha h
    · exact CharSet.contains_of_apart hnum h
    · exact absurd rfl hc

theorem isWordPart_of_isBlank {c : Char} (h : isBlank c = true) : isWordPart c = false := by
  by_contra hw
  rw [isBlank_of_isWordPart (by simpa using hw)] at h
  cases h

end TypedQueries.Text
