import Mathlib.Data.List.Pairwise
import TypedQueries.Proofs.CharTables
import TypedQueries.Text.CaseMapping

/-!
What the tables of case forms do and do not contain. No letter has a form that is a separator, and
the lower-case form of an upper-case form is settled: to put it into upper and lower case again
changes its letters no more. Both are checked run by run.
-/

namespace TypedQueries.Text

/-- The code points of a shift's forms. -/
def Shift.image (s : Shift) : Run :=
  ⟨(s.run.first + s.offset).toNat, (s.run.last + s.offset).toNat, s.run.step⟩

/-- Whether all forms of a shift are characters. -/
def Shift.isSound (s : Shift) : Bool :=
  decide (0 ≤ s.run.first + s.offset) && (Nat.blt s.image.last 0xD800 ||
    (Nat.blt 0xDFFF s.image.first && Nat.blt s.image.last 0x110000))

theorem contains_image {s : Shift} {n : Nat} (hs : s.isSound = true)
    (hn : s.run.contains n = true) :
    ((n + s.offset).toNat : Int) = n + s.offset ∧ s.image.contains (n + s.offset).toNat = true := by
  obtain ⟨hfirst, hlast⟩ := Run.bounds_of_contains hn
  simp only [Run.contains, Bool.and_eq_true, decide_eq_true_eq, beq_iff_eq] at hn
  simp only [Shift.isSound, Bool.and_eq_true, decide_eq_true_eq] at hs
  have hcast : ((n + s.offset).toNat : Int) = n + s.offset := Int.toNat_of_nonneg (by omega)
  have hdiff : (n + s.offset).toNat - (s.run.first + s.offset).toNat = n - s.run.first := by omega
  refine ⟨hcast, ?_⟩
  have hbounds : (s.run.first + s.offset).toNat ≤ (n + s.offset).toNat ∧
      (n + s.offset).toNat ≤ (s.run.last + s.offset).toNat := by omega
  simp [Shift.image, Run.contains, hdiff, hn.2, hbounds]

theorem toNat_ofNat_of_isSound {s : Shift} {n : Nat} (hs : s.isSound = true)
    (hn : s.run.contains n = true) :
    (Char.ofNat (n + s.offset).toNat).toNat = (n + s.offset).toNat := by
  obtain ⟨hfirst, hlast⟩ := Run.bounds_of_contains (contains_image hs hn).2
  simp only [Shift.isSound, Nat.blt, Bool.and_eq_true, Bool.or_eq_true, Nat.ble_eq] at hs
  have hvalid : (n + s.offset).toNat.isValidChar := by
    rcases hs.2 with h | h
    · exact Or.inl (by omega)
    · exact Or.inr (by omega)
  rw [Char.ofNat, dif_pos hvalid]
  rfl

/-- Whether every code point of a run is in another one. -/
def Run.within (r s : Run) : Bool :=
  Nat.ble s.first r.first && (Nat.ble r.last s.last &&
    ((r.first - s.first) % s.step == 0 && (r.step % s.step == 0 || r.first == r.last)))

theorem Run.contains_of_within {r s : Run} {n : Nat} (h : r.within s = true)
    (hn : r.contains n = true) : s.contains n = true := by
  obtain ⟨hfirst, hlast⟩ := Run.bounds_of_contains hn
  simp only [within, Bool.and_eq_true, Bool.or_eq_true, Nat.ble_eq, beq_iff_eq] at h
  simp only [contains, Bool.and_eq_true, decide_eq_true_eq, beq_iff_eq] at hn ⊢
  obtain ⟨hlow, hhigh, hstart, hstep⟩ := h
  refine ⟨by omega, ?_⟩
  have hsum : n - s.first = (r.first - s.first) + (n - r.first) := by omega
  rcases hstep with hstep | hone
  · rw [hsum]
    exact Nat.mod_eq_zero_of_dvd ((Nat.dvd_add_right (Nat.dvd_of_mod_eq_zero hstart)).2
      (Nat.dvd_trans (Nat.dvd_of_mod_eq_zero hstep) (Nat.dvd_of_mod_eq_zero hn.2)))
  · have : n = r.first := by omega
    rw [this]
    exact hstart

section CaseForm

variable {shifts : List Shift} {expansions : List (Nat × List Nat)} {c : Char}

/-- The form of a character is itself, or a shift or an expansion has it. -/
theorem caseForm_cases (shifts : List Shift) (expansions : List (Nat × List Nat)) (c : Char) :
    (caseForm shifts expansions c = [c] ∧ ∀ s ∈ shifts, s.run.contains c.toNat = false) ∨
    (∃ s ∈ shifts, s.run.contains c.toNat = true ∧
      caseForm shifts expansions c = [Char.ofNat (c.toNat + s.offset).toNat]) ∨
    ∃ form, (c.toNat, form) ∈ expansions ∧ caseForm shifts expansions c = form.map Char.ofNat := by
  unfold caseForm
  cases hform : expansions.lookup c.toNat with
  | some form =>
    obtain ⟨front, back, hmem, -⟩ := List.lookup_eq_some_iff.1 hform
    exact Or.inr (Or.inr ⟨form, by simp [hmem], rfl⟩)
  | none =>
    cases hshift : shifts.find? fun s => s.run.contains c.toNat with
    | none =>
      refine Or.inl ⟨rfl, ?_⟩
      simpa using hshift
    | some s =>
      exact Or.inr (Or.inl ⟨s, List.mem_of_find?_eq_some hshift, by
        simpa using List.find?_some hshift, rfl⟩)

theorem lowerChar_ne_nil (c : Char) : lowerChar c ≠ [] := by
  unfold lowerChar
  split
  · simp
  · have hforms : ∀ e ∈ lowerExpansions, e.2 ≠ [] := by decide
    rcases caseForm_cases lowerShifts lowerExpansions c with ⟨h, -⟩ | ⟨s, -, -, h⟩ | ⟨form, hmem, h⟩
    · simp [h]
    · simp [h]
    · simpa [h] using hforms _ hmem

end CaseForm

section Separators

/-- Blanks, and the seven-bit characters that no word has. -/
def separatorRuns : CharSet :=
  blankRuns ++ [⟨0x0, 0x2F, 1⟩, ⟨0x3A, 0x40, 1⟩, ⟨0x5B, 0x5E, 1⟩, ⟨0x60, 0x60, 1⟩, ⟨0x7B, 0x7F, 1⟩]

def isSeparator (c : Char) : Bool := separatorRuns.contains c

theorem isSeparator_of_isWordPart {c : Char} (h : isWordPart c = true) : isSeparator c = false := by
  by_cases hc : isAscii c = true
  · have hall := forall_isAscii (p := fun c => !isWordPart c || !isSeparator c)
      (by decide +kernel) hc
    simpa [h] using hall
  · have hblank : isBlank c = false := isBlank_of_isWordPart h
    have hrest : CharSet.contains [⟨0x0, 0x2F, 1⟩, ⟨0x3A, 0x40, 1⟩, ⟨0x5B, 0x5E, 1⟩,
        ⟨0x60, 0x60, 1⟩, ⟨0x7B, 0x7F, 1⟩] c = false := by
      simp only [isAscii, decide_eq_true_eq, Nat.not_lt] at hc
      simp only [CharSet.contains, List.any_cons, List.any_nil, Run.contains, Bool.or_false,
        Bool.or_eq_false_iff, Bool.and_eq_false_imp, Bool.and_eq_true, decide_eq_true_eq]
      omega
    simp only [isSeparator, separatorRuns, CharSet.contains, List.any_append, Bool.or_eq_false_iff]
    exact ⟨hblank, hrest⟩

/-- Whether no form in the tables is a separator. -/
def keepsSeparators (shifts : List Shift) (expansions : List (Nat × List Nat)) : Bool :=
  (shifts.all fun s => s.isSound && separatorRuns.all s.image.apart) &&
    expansions.all fun e => e.2.all fun n =>
      Nat.blt n 0xD800 && separatorRuns.all fun r => !r.contains n

theorem toNat_ofNat_of_lt {n : Nat} (h : n < 0xD800) : (Char.ofNat n).toNat = n := by
  rw [Char.ofNat, dif_pos (Or.inl h)]
  rfl

/-- Whether no form in the tables is the character with code point `n`. -/
def formsAvoid (shifts : List Shift) (expansions : List (Nat × List Nat)) (n : Nat) : Bool :=
  (shifts.all fun s => s.isSound && !s.image.contains n) &&
    expansions.all fun e => e.2.all fun m => Nat.blt m 0xD800 && m != n

/-- A character that no other one has for a form is in its own form only. -/
theorem eq_of_formsAvoid {shifts : List Shift} {expansions : List (Nat × List Nat)} {c d : Char}
    (havoid : formsAvoid shifts expansions d.toNat = true) (h : d ∈ caseForm shifts expansions c) :
    c = d := by
  simp only [formsAvoid, Bool.and_eq_true, List.all_eq_true] at havoid
  rcases caseForm_cases shifts expansions c with ⟨hform, -⟩ | ⟨s, hs, hsc, hform⟩ | ⟨form, hmem, hform⟩
  · rw [hform] at h
    exact (List.mem_singleton.1 h).symm
  · obtain ⟨hsound, hnot⟩ := havoid.1 s hs
    rw [hform, List.mem_singleton] at h
    rw [h, toNat_ofNat_of_isSound hsound hsc, (contains_image hsound hsc).2] at hnot
    cases hnot
  · rw [hform] at h
    obtain ⟨n, hn, rfl⟩ := List.mem_map.1 h
    obtain ⟨hlt, hnot⟩ := havoid.2 _ hmem n hn
    rw [toNat_ofNat_of_lt (by simpa only [Nat.blt_eq] using hlt)] at hnot
    simp at hnot

theorem eq_of_mem_caseForm {shifts : List Shift} {expansions : List (Nat × List Nat)}
    (hkeeps : keepsSeparators shifts expansions = true) {c d : Char} (hd : isSeparator d = true)
    (h : d ∈ caseForm shifts expansions c) : c = d := by
  obtain ⟨r, hr, hrd⟩ := (CharSet.contains_iff _ _).1 hd
  simp only [keepsSeparators, Bool.and_eq_true, List.all_eq_true] at hkeeps
  refine eq_of_formsAvoid ?_ h
  simp only [formsAvoid, Bool.and_eq_true, List.all_eq_true, Bool.not_eq_true', bne_iff_ne]
  constructor
  · intro s hs
    obtain ⟨hsound, happart⟩ := hkeeps.1 s hs
    refine ⟨hsound, ?_⟩
    by_contra hcontains
    rw [Run.contains_of_apart (happart r hr) (by simpa using hcontains)] at hrd
    cases hrd
  · intro e he n hn
    obtain ⟨hlt, hnot⟩ := hkeeps.2 e he n hn
    refine ⟨hlt, ?_⟩
    rintro rfl
    have hnot := hnot r hr
    simp [hrd] at hnot

theorem eq_of_mem_upperChar {c d : Char} (hd : isSeparator d = true) (h : d ∈ upperChar c) :
    c = d := by
  unfold upperChar at h
  split at h
  · rename_i hc
    have hall := forall_isAscii (p := fun c => !isSeparator c.toUpper || c == c.toUpper)
      (by decide +kernel) hc
    rw [List.mem_singleton] at h
    subst h
    simpa [hd] using hall
  · exact eq_of_mem_caseForm (by decide +kernel) hd h

theorem eq_of_mem_lowerChar {c d : Char} (hd : isSeparator d = true) (h : d ∈ lowerChar c) :
    c = d := by
  unfold lowerChar at h
  split at h
  · rename_i hc
    have hall := forall_isAscii (p := fun c => !isSeparator c.toLower || c == c.toLower)
      (by decide +kernel) hc
    rw [List.mem_singleton] at h
    subst h
    simpa [hd] using hall
  · exact eq_of_mem_caseForm (by decide +kernel) hd h

end Separators

section Folding

/-- The lower-case form of the upper-case form. -/
def foldChar (c : Char) : List Char := (upperChar c).flatMap lowerChar

/-- Whether folding leaves a character as it is, or makes a word of it with the same upper-case
form. -/
def isSettled (c : Char) : Bool :=
  foldChar c == [c] || ((foldChar c).flatMap upperChar == upperChar c &&
    (foldChar c).all isWordPart && (foldChar c).head?.any isWordStart)

theorem isSettled_of_foldChar {c : Char} (h : foldChar c = [c]) : isSettled c = true := by
  simp [isSettled, h]

/-- Whether the tables lead from each form of a lower-case shift back to its character. -/
def Shift.isInvertible (s : Shift) : Bool :=
  Nat.ble 128 s.image.first && (upperShifts.any fun u => s.image.within u.run &&
    decide (u.offset = -s.offset)) && upperExpansions.all fun e => !s.image.contains e.1

/-- Runs in ascending order, none of them empty. -/
def Shift.Before (s u : Shift) : Prop := s.run.last < u.run.first ∧ u.run.first ≤ u.run.last

instance (s u : Shift) : Decidable (s.Before u) :=
  inferInstanceAs (Decidable (s.run.last < u.run.first ∧ u.run.first ≤ u.run.last))

instance : Trans Shift.Before Shift.Before Shift.Before where
  trans := fun ⟨h₁, h₂⟩ ⟨h₃, h₄⟩ => ⟨by omega, h₄⟩

theorem eq_of_mem_upperShifts {s u : Shift} (hs : s ∈ upperShifts) (hu : u ∈ upperShifts) {n : Nat}
    (hsn : s.run.contains n = true) (hun : u.run.contains n = true) : s = u := by
  have hchain : upperShifts.IsChain Shift.Before := by decide +kernel
  have hpairwise : upperShifts.Pairwise fun s u => s.run.apart u.run = true :=
    hchain.pairwise.imp fun h => by simp [Run.apart, h.1]
  by_contra hne
  have hsymm : Std.Symm fun s u : Shift => s.run.apart u.run = true :=
    ⟨fun _ _ h => by simpa [Run.apart, Bool.or_comm] using h⟩
  have happart := hpairwise.forall hs hu hne
  rw [Run.contains_of_apart happart hsn] at hun
  cases hun

theorem isAscii_eq_false {c : Char} (h : 128 ≤ c.toNat) : isAscii c = false := by
  simpa [isAscii] using h

/-- A form of an invertible shift has its character for its upper-case form. -/
theorem upperChar_of_isInvertible {s : Shift} (hs : s.isSound = true)
    (hinv : s.isInvertible = true) {c : Char} (hc : s.run.contains c.toNat = true) :
    upperChar (Char.ofNat (c.toNat + s.offset).toNat) = [c] := by
  obtain ⟨hcast, himage⟩ := contains_image hs hc
  have hnat := toNat_ofNat_of_isSound hs hc
  simp only [Shift.isInvertible, Bool.and_eq_true, Nat.ble_eq, List.any_eq_true, List.all_eq_true,
    decide_eq_true_eq, Bool.not_eq_true'] at hinv
  obtain ⟨⟨hlow, u, hu, hwithin, hoffset⟩, hkeys⟩ := hinv
  have hun := Run.contains_of_within hwithin himage
  rw [← hnat] at himage hun hcast
  generalize Char.ofNat (c.toNat + s.offset).toNat = z at himage hun hcast
  have hz : isAscii z = false :=
    isAscii_eq_false (Nat.le_trans hlow (Run.bounds_of_contains himage).1)
  simp only [upperChar, hz, Bool.false_eq_true, ↓reduceIte]
  rcases caseForm_cases upperShifts upperExpansions z with
    ⟨-, hnone⟩ | ⟨u', hu', hun', hform⟩ | ⟨form, hmem, -⟩
  · rw [hnone u hu] at hun
    cases hun
  · have hback : (z.toNat + u'.offset).toNat = c.toNat := by
      rw [eq_of_mem_upperShifts hu' hu hun' hun, hoffset]
      omega
    rw [hform, hback, Char.ofNat_toNat]
  · rw [hkeys _ hmem] at himage
    cases himage

/-- The lower-case forms that shifts give are settled. -/
theorem isSettled_of_mem_lowerShifts {c : Char} {s : Shift} (hs : s ∈ lowerShifts) (hsc : s.run.contains c.toNat = true)
    (hform : lowerChar c = [Char.ofNat (c.toNat + s.offset).toNat]) :
    isSettled (Char.ofNat (c.toNat + s.offset).toNat) = true := by
  have hall : (lowerShifts.all fun s => s.isSound && (s.isInvertible ||
      s.run.points.all fun n => isSettled (Char.ofNat (n + s.offset).toNat))) = true := by
    decide +kernel
  have hcheck := List.all_eq_true.1 hall s hs
  simp only [Bool.and_eq_true, Bool.or_eq_true, List.all_eq_true] at hcheck
  rcases hcheck.2 with hinv | hpoints
  · apply isSettled_of_foldChar
    rw [foldChar, upperChar_of_isInvertible hcheck.1 hinv hsc]
    simpa using hform
  · exact hpoints _ (Run.mem_points hsc)

/-- What is left of the upper-case expansions: marks that have no case. -/
def caseless : List Nat := [0x2BC, 0x2BE, 0x300, 0x301, 0x308, 0x30A, 0x30C, 0x313, 0x331, 0x342]

/-- A character that has a lower-case form by a shift. -/
def HasLowerShift (c : Char) : Prop := ∃ s ∈ lowerShifts, s.run.contains c.toNat = true

theorem hasLowerShift_of_upperShift {s : Shift} {c : Char} (hs : s ∈ upperShifts)
    (hc : s.run.contains c.toNat = true) :
    isAscii (Char.ofNat (c.toNat + s.offset).toNat) = true ∨
      HasLowerShift (Char.ofNat (c.toNat + s.offset).toNat) := by
  have hshifts : (upperShifts.all fun s => s.isSound &&
      (lowerShifts.any (fun u => s.image.within u.run) || Nat.blt s.image.last 128)) = true := by
    decide +kernel
  have hcheck := List.all_eq_true.1 hshifts s hs
  simp only [Bool.and_eq_true, Bool.or_eq_true, List.any_eq_true, Nat.blt_eq] at hcheck
  obtain ⟨hsound, hform⟩ := hcheck
  have himage := (contains_image hsound hc).2
  rw [← toNat_ofNat_of_isSound hsound hc] at himage
  rcases hform with ⟨u, hu, hwithin⟩ | hlast
  · exact Or.inr ⟨u, hu, Run.contains_of_within hwithin himage⟩
  · have hle := (Run.bounds_of_contains himage).2
    exact Or.inl (decide_eq_true (Nat.lt_of_le_of_lt hle hlast))

theorem isSettled_or_of_upperExpansion {e : Nat × List Nat} {n : Nat} (he : e ∈ upperExpansions)
    (hn : n ∈ e.2) :
    isAscii (Char.ofNat n) = true ∨ isSettled (Char.ofNat n) = true ∨
      HasLowerShift (Char.ofNat n) := by
  have hexpansions : (upperExpansions.all fun e => e.2.all fun n => Nat.blt n 0xD800 &&
      (Nat.blt n 128 || caseless.contains n || lowerShifts.any fun u => u.run.contains n)) = true := by
    decide +kernel
  have hcaseless : (caseless.all fun n => isSettled (Char.ofNat n)) = true := by decide +kernel
  have hcheck := List.all_eq_true.1 (List.all_eq_true.1 hexpansions e he) n hn
  simp only [Bool.and_eq_true, Bool.or_eq_true, List.any_eq_true, Nat.blt_eq] at hcheck
  obtain ⟨hvalid, hform⟩ := hcheck
  have hnat := toNat_ofNat_of_lt hvalid
  rcases hform with (hlt | hmark) | ⟨u, hu, hun⟩
  · exact Or.inl (decide_eq_true (by rwa [hnat]))
  · exact Or.inr (Or.inl (List.all_eq_true.1 hcaseless n (by simpa using hmark)))
  · exact Or.inr (Or.inr ⟨u, hu, by rwa [hnat]⟩)

/-- An upper-case form that is its own lower-case form is settled. -/
theorem isSettled_of_mem_upperChar {c y : Char} (hy : y ∈ upperChar c) (hascii : isAscii y = false)
    (hform : lowerChar y = [y])
    (hlower : ∀ s ∈ lowerShifts, s.run.contains y.toNat = false) : isSettled y = true := by
  have hnone : ¬ HasLowerShift y := by
    rintro ⟨s, hs, hsy⟩
    exact absurd hsy (by simp [hlower s hs])
  unfold upperChar at hy
  split at hy
  · rename_i hc
    have hall := forall_isAscii (p := fun c => isAscii c.toUpper) (by decide +kernel) hc
    rw [List.mem_singleton.1 hy, hall] at hascii
    cases hascii
  · rename_i hc
    rcases caseForm_cases upperShifts upperExpansions c with
      ⟨hsame, -⟩ | ⟨s, hs, hsc, hshift⟩ | ⟨form, hmem, hexpand⟩
    · rw [hsame, List.mem_singleton] at hy
      subst hy
      apply isSettled_of_foldChar
      simp only [foldChar, upperChar, hc, Bool.false_eq_true, ↓reduceIte, hsame,
        List.flatMap_cons, List.flatMap_nil, List.append_nil, hform]
    · rw [hshift, List.mem_singleton] at hy
      subst hy
      rcases hasLowerShift_of_upperShift hs hsc with h | h
      · exact absurd h (by simp [hascii])
      · exact absurd h hnone
    · rw [hexpand] at hy
      obtain ⟨n, hn, rfl⟩ := List.mem_map.1 hy
      rcases isSettled_or_of_upperExpansion hmem hn with h | h | h
      · exact absurd h (by simp [hascii])
      · exact h
      · exact absurd h hnone

/-- Folding is settled after one time. -/
theorem isSettled_of_mem_foldChar {c z : Char} (h : z ∈ foldChar c) : isSettled z = true := by
  obtain ⟨y, hy, hz⟩ := List.mem_flatMap.1 h
  cases hascii : isAscii y with
  | true =>
    have hall := forall_isAscii (p := fun c => isSettled c.toLower) (by decide +kernel) hascii
    rw [lowerChar_of_isAscii hascii, List.mem_singleton] at hz
    rw [hz]
    exact hall
  | false =>
    have hlower : lowerChar y = caseForm lowerShifts lowerExpansions y := by
      simp [lowerChar, hascii]
    rcases caseForm_cases lowerShifts lowerExpansions y with
      ⟨hsame, hnone⟩ | ⟨s, hs, hsy, hshift⟩ | ⟨form, hmem, hexpand⟩
    · rw [hlower, hsame, List.mem_singleton] at hz
      subst hz
      exact isSettled_of_mem_upperChar hy hascii (hlower.trans hsame) hnone
    · rw [hlower, hshift, List.mem_singleton] at hz
      rw [hz]
      exact isSettled_of_mem_lowerShifts hs hsy (hlower.trans hshift)
    · have hexpansions : (lowerExpansions.all fun e => e.2.all fun n =>
          isSettled (Char.ofNat n)) = true := by decide +kernel
      rw [hlower, hexpand] at hz
      obtain ⟨n, hn, rfl⟩ := List.mem_map.1 hz
      exact List.all_eq_true.1 (List.all_eq_true.1 hexpansions _ hmem) n hn

end Folding

end TypedQueries.Text
