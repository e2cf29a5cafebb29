import Mathlib.Data.List.Forall2
import TypedQueries.Proofs.CaseTables
import TypedQueries.Proofs.Regular

/-!
Case forms of texts. A seven-bit text changes letter by letter. Any other text changes no more once
it was put into upper and then into lower case, up to the two small sigmas; so a word of such a text
is a bare name.
-/

namespace TypedQueries.Text

theorem isAscii_iff {c : Char} : isAscii c = true ↔ c.toNat < 128 := by
  simp [isAscii]

theorem flatMap_upperChar_of_isAscii {cs : List Char} (h : ∀ c ∈ cs, isAscii c = true) :
    cs.flatMap upperChar = cs.map Char.toUpper := by
  induction cs with
  | nil => rfl
  | cons c cs ih =>
    rw [List.flatMap_cons, upperChar_of_isAscii (h c (by simp)), ih fun d hd => h d (by simp [hd])]
    rfl

theorem lowerFrom_of_isAscii (before : List Char) {cs : List Char}
    (h : ∀ c ∈ cs, isAscii c = true) : lowerFrom before cs = cs.map Char.toLower := by
  induction cs generalizing before with
  | nil => rfl
  | cons c cs ih =>
    have hc := h c (by simp)
    have hsigma : c ≠ 'Σ' := by
      rintro rfl
      exact absurd hc (by decide)
    rw [lowerFrom, if_neg hsigma, lowerChar_of_isAscii hc, ih _ fun d hd => h d (by simp [hd])]
    rfl

/-- The same character, or final sigma in the place of sigma. -/
def SameButSigma (c d : Char) : Prop := c = d ∨ c = 'ς' ∧ d = 'σ'

/-- Lower case of a text is lower case of its characters, but for final sigmas. -/
theorem forall₂_lowerFrom (before cs : List Char) :
    List.Forall₂ SameButSigma (lowerFrom before cs) (cs.flatMap lowerChar) := by
  induction cs generalizing before with
  | nil => exact .nil
  | cons c cs ih =>
    rw [lowerFrom, List.flatMap_cons]
    refine List.rel_append ?_ (ih (c :: before))
    split
    · rename_i hc
      have hlower : lowerChar c = ['σ'] := by
        rw [hc]
        decide +kernel
      have hsigma : SameButSigma (lowerSigma before cs) 'σ' := by
        unfold lowerSigma
        split
        · exact Or.inr ⟨rfl, rfl⟩
        · exact Or.inl rfl
      rw [hlower]
      exact .cons hsigma .nil
    · exact List.forall₂_same.2 fun d _ => Or.inl rfl

theorem mem_of_forall₂ {cs ds : List Char} (h : List.Forall₂ SameButSigma cs ds) {c : Char}
    (hc : c ∈ cs) : c ∈ ds ∨ c = 'ς' := by
  induction h with
  | nil => cases hc
  | @cons a b cs ds hab h ih =>
    rcases List.mem_cons.1 hc with rfl | hc
    · rcases hab with rfl | ⟨hsigma, -⟩
      · exact Or.inl List.mem_cons_self
      · exact Or.inr hsigma
    · exact (ih hc).imp_left (List.mem_cons_of_mem b)

theorem flatMap_upperChar_of_forall₂ {cs ds : List Char} (h : List.Forall₂ SameButSigma cs ds) :
    cs.flatMap upperChar = ds.flatMap upperChar := by
  have hsigma : upperChar 'ς' = upperChar 'σ' := by decide +kernel
  induction h with
  | nil => rfl
  | @cons a b cs ds hab h ih =>
    rw [List.flatMap_cons, List.flatMap_cons, ih]
    rcases hab with rfl | ⟨rfl, rfl⟩
    · rfl
    · rw [hsigma]

theorem isWord_of_forall₂ {cs ds : List Char} (h : List.Forall₂ SameButSigma cs ds)
    (hds : isWord ds = true) : isWord cs = true := by
  have hsigma : isWordStart 'ς' = true := by decide +kernel
  cases h with
  | nil => exact hds
  | @cons a b cs ds hab h =>
    rw [isWord_cons] at hds ⊢
    constructor
    · rcases hab with rfl | ⟨rfl, rfl⟩
      · exact hds.1
      · exact hsigma
    · intro d hd
      rcases mem_of_forall₂ h hd with hd | rfl
      · exact hds.2 d hd
      · exact isWordPart_of_isWordStart hsigma

theorem mem_toList_upper {s : String} {d : Char} :
    d ∈ (upper s).toList ↔ ∃ c ∈ s.toList, d ∈ upperChar c := by
  simp [upper]

theorem mem_toList_lower {s : String} {d : Char} (h : d ∈ (lower s).toList) :
    (∃ c ∈ s.toList, d ∈ lowerChar c) ∨ d = 'ς' := by
  have hmem : d ∈ lowerFrom [] s.toList := by simpa [lower] using h
  exact (mem_of_forall₂ (forall₂_lowerFrom [] s.toList) hmem).imp_left List.mem_flatMap.1

/-- A character that is in a text after it was put into upper and then into lower case is settled. -/
theorem isSettled_of_mem_fold {s : String} {d : Char} (h : d ∈ (lower (upper s)).toList) :
    isSettled d = true := by
  rcases mem_toList_lower h with ⟨y, hy, hd⟩ | rfl
  · obtain ⟨c, -, hc⟩ := mem_toList_upper.1 hy
    exact isSettled_of_mem_foldChar (List.mem_flatMap.2 ⟨y, hc, hd⟩)
  · decide +kernel

theorem isSeparator_of_mem_fold {s : String} (hs : ∀ c ∈ s.toList, isSeparator c = false) {d : Char}
    (h : d ∈ (lower (upper s)).toList) : isSeparator d = false := by
  rcases mem_toList_lower h with ⟨y, hy, hd⟩ | rfl
  · by_contra hsep
    have hsep : isSeparator d = true := by simpa using hsep
    obtain rfl := eq_of_mem_lowerChar hsep hd
    obtain ⟨c, hc, hy⟩ := mem_toList_upper.1 hy
    obtain rfl := eq_of_mem_upperChar hsep hy
    rw [hs c hc] at hsep
    cases hsep
  · decide +kernel

/-- A text has each of its separators as often in lower case. -/
theorem count_lower {q : Char} (hq : isSeparator q = true) (hself : lowerChar q = [q]) (s : String) :
    (lower s).toList.count q = s.toList.count q := by
  have hsigma : isSeparator 'ς' = false ∧ isSeparator 'σ' = false := by decide +kernel
  have hcount {cs ds : List Char} (h : List.Forall₂ SameButSigma cs ds) :
      cs.count q = ds.count q := by
    induction h with
    | nil => rfl
    | @cons a b cs ds hab h ih =>
      rw [List.count_cons, List.count_cons, ih]
      rcases hab with rfl | ⟨rfl, rfl⟩
      · rfl
      · have hfinal : 'ς' ≠ q := fun h => by rw [← h, hsigma.1] at hq; cases hq
        have hmiddle : 'σ' ≠ q := fun h => by rw [← h, hsigma.2] at hq; cases hq
        simp [hfinal, hmiddle]
  have hchar (c : Char) : (lowerChar c).count q = [c].count q := by
    by_cases hc : c = q
    · rw [hc, hself]
    · have hnot : q ∉ lowerChar c := fun h => hc (eq_of_mem_lowerChar hq h)
      rw [List.count_eq_zero.2 hnot, List.count_eq_zero.2 (by simpa using Ne.symm hc)]
  have hflat (cs : List Char) : (cs.flatMap lowerChar).count q = cs.count q := by
    induction cs with
    | nil => rfl
    | cons c cs ih =>
      rw [List.flatMap_cons, List.count_append, ih, hchar, ← List.count_append, List.singleton_append]
  rw [lower, String.toList_ofList, hcount (forall₂_lowerFrom [] s.toList), hflat]

section Settled

variable {cs : List Char}

theorem flatMap_foldChar (hs : ∀ c ∈ cs, isSettled c = true) :
    (cs.flatMap foldChar).flatMap upperChar = cs.flatMap upperChar := by
  rw [List.flatMap_assoc]
  refine List.flatMap_congr fun c hc => ?_
  have h := hs c hc
  simp only [isSettled, Bool.or_eq_true, Bool.and_eq_true, beq_iff_eq] at h
  rcases h with h | ⟨⟨h, -⟩, -⟩
  · simp [h]
  · exact h

theorem isWordPart_of_mem_foldChar {c d : Char} (hs : isSettled c = true)
    (hc : isWordPart c = true) (hd : d ∈ foldChar c) : isWordPart d = true := by
  simp only [isSettled, Bool.or_eq_true, Bool.and_eq_true, beq_iff_eq, List.all_eq_true] at hs
  rcases hs with h | ⟨⟨-, h⟩, -⟩
  · rw [h, List.mem_singleton] at hd
    rwa [hd]
  · exact h d hd

/-- Folding makes a word of a word. -/
theorem isWord_flatMap_foldChar (hw : isWord cs = true) (hs : ∀ c ∈ cs, isSettled c = true) :
    isWord (cs.flatMap foldChar) = true := by
  cases cs with
  | nil => cases hw
  | cons c cs =>
    rw [isWord_cons] at hw
    have hc := hs c (by simp)
    obtain ⟨d, ds, hfold, hstart⟩ : ∃ d ds, foldChar c = d :: ds ∧ isWordStart d = true := by
      simp only [isSettled, Bool.or_eq_true, Bool.and_eq_true, beq_iff_eq] at hc
      rcases hc with h | ⟨-, h⟩
      · exact ⟨c, [], h, hw.1⟩
      · cases hfold : foldChar c with
        | nil => simp [hfold] at h
        | cons d ds => exact ⟨d, ds, rfl, by simpa [hfold] using h⟩
    rw [List.flatMap_cons, hfold, List.cons_append, isWord_cons]
    refine ⟨hstart, fun e he => ?_⟩
    rcases List.mem_append.1 he with he | he
    · exact isWordPart_of_mem_foldChar hc (isWordPart_of_isWordStart hw.1) (by simp [hfold, he])
    · obtain ⟨b, hb, he⟩ := List.mem_flatMap.1 he
      exact isWordPart_of_mem_foldChar (hs b (by simp [hb])) (hw.2 b hb) he

end Settled

end TypedQueries.Text

namespace TypedQueries

/-- A word of settled characters names a bare column. -/
theorem isBareColumn_of_isSettled {word : List Char} (hw : Text.isWord word = true)
    (hs : ∀ c ∈ word, Text.isSettled c = true)
    (hr : isReserved (Text.upper (String.ofList word)) = false) :
    isBareColumn (Text.upper (String.ofList word)) = true := by
  have hupper : (Text.upper (String.ofList word)).toList = word.flatMap Text.upperChar := by
    simp [Text.upper]
  have hlower := Text.forall₂_lowerFrom [] (word.flatMap Text.upperChar)
  have hassoc : (word.flatMap Text.upperChar).flatMap Text.lowerChar = word.flatMap Text.foldChar :=
    List.flatMap_assoc
  rw [hassoc] at hlower
  refine isBareColumn_iff.2 ⟨?_, ?_, hr⟩
  · rw [Text.lower, String.toList_ofList, hupper]
    exact Text.isWord_of_forall₂ hlower (Text.isWord_flatMap_foldChar hw hs)
  · rw [Text.lower, hupper, Text.upper, String.toList_ofList,
      Text.flatMap_upperChar_of_forall₂ hlower, Text.flatMap_foldChar hs, Text.upper,
      String.toList_ofList]

end TypedQueries
