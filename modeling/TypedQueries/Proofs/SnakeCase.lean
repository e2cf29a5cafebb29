import TypedQueries.Proofs.FieldTags

/-!
Names in snake case: words of small letters and digits with one underscore between any two. The
snake case of a name in ASCII has that form and the letters and digits of the name, and a name that
has the form is its own snake case.
-/

namespace TypedQueries.Naming

open Text

def isSmallOrDigit (c : Char) : Bool := c.isLower || c.isDigit

structure IsSnakeWord (word : List Char) : Prop where
  ne_nil : word ≠ []
  small : ∀ c ∈ word, isSmallOrDigit c = true

/-- Words with one underscore between any two, or nothing. -/
def IsSnakeCase (cs : List Char) : Prop :=
  ∃ parts : List (List Char), (∀ part ∈ parts, IsSnakeWord part) ∧ cs = ['_'].intercalate parts

theorem intercalate_underscore (first : List Char) (more : List (List Char)) :
    ['_'].intercalate (first :: more) = first ++ more.flatMap ('_' :: ·) := by
  induction more generalizing first with
  | nil => simp
  | cons part more ih => simp [List.intercalate_cons_cons, ih]

theorem isAscii_of_isSmallOrDigit {c : Char} (h : isSmallOrDigit c = true) : isAscii c = true := by
  have hle : c.val ≤ 'z'.val := by
    rcases Bool.or_eq_true_iff.1 h with hlower | hdigit
    · exact of_decide_eq_true (Bool.and_eq_true_iff.1 hlower).2
    · have hnine : c.val ≤ '9'.val := of_decide_eq_true (Bool.and_eq_true_iff.1 hdigit).2
      exact UInt32.le_trans hnine (by decide)
  have hn : c.val.toNat ≤ 122 := UInt32.le_iff_toNat_le.1 hle
  simp only [isAscii, Char.toNat, decide_eq_true_eq]
  omega

/-- Seven-bit letters and digits have lower-case forms that are their own. -/
theorem alphanum_of_isAscii {c : Char} (hc : isAscii c = true) :
    isAlphanumeric c = c.isAlphanum ∧ (c.isAlphanum = true → isSmallOrDigit c.toLower = true) ∧
      (isSmallOrDigit c = true → c.isAlphanum = true ∧ c.toLower = c) := by
  have hall := forall_isAscii (p := fun c => isAlphanumeric c == c.isAlphanum &&
    ((!c.isAlphanum || isSmallOrDigit c.toLower) &&
      (!isSmallOrDigit c || (c.isAlphanum && c.toLower == c)))) (by decide +kernel) hc
  simp only [Bool.and_eq_true, beq_iff_eq] at hall
  obtain ⟨hword, hlower, hsmall⟩ := hall
  exact ⟨hword, fun h => by simpa [h] using hlower, fun h => by simpa [h] using hsmall⟩

section Reading

variable (started pending afterLower : Bool)

theorem snakeFrom_smallOrDigit {c : Char} (h : isSmallOrDigit c = true) (cs : List Char) :
    snakeFrom started pending afterLower (c :: cs) =
      (if pending then ['_'] else []) ++ c :: snakeFrom true false true cs := by
  have hc := isAscii_of_isSmallOrDigit h
  obtain ⟨hword, -, hsmall⟩ := alphanum_of_isAscii hc
  exact snakeFrom_small hc (hsmall h).2 _ _ _ _ (hword.trans (hsmall h).1)

/-- A word is written as it is, behind an underscore if a word has ended before it. -/
theorem snakeFrom_append_of_isSnakeWord {word : List Char} (h : IsSnakeWord word)
    (rest : List Char) :
    snakeFrom started pending afterLower (word ++ rest) =
      (if pending then ['_'] else []) ++ (word ++ snakeFrom true false true rest) := by
  obtain ⟨hne, hsmall⟩ := h
  induction word generalizing started pending afterLower with
  | nil => exact absurd rfl hne
  | cons c word ih =>
    rw [List.forall_mem_cons] at hsmall
    rw [List.cons_append, snakeFrom_smallOrDigit _ _ _ hsmall.1]
    cases word with
    | nil => rfl
    | cons d word => rw [ih true false true (by simp) hsmall.2]; simp

end Reading

theorem snakeFrom_flatMap_underscore {more : List (List Char)}
    (h : ∀ part ∈ more, IsSnakeWord part) :
    snakeFrom true false true (more.flatMap ('_' :: ·)) = more.flatMap ('_' :: ·) := by
  have hunderscore : isAlphanumeric '_' = false := by decide +kernel
  induction more with
  | nil => rfl
  | cons part more ih =>
    rw [List.forall_mem_cons] at h
    rw [List.flatMap_cons, List.cons_append, snakeFrom_other hunderscore,
      snakeFrom_append_of_isSnakeWord _ _ _ h.1, ih h.2]
    simp

theorem snakeFrom_of_isSnakeCase {cs : List Char} (h : IsSnakeCase cs) :
    snakeFrom false false false cs = cs := by
  obtain ⟨parts, hparts, rfl⟩ := h
  cases parts with
  | nil => rfl
  | cons first more =>
    rw [List.forall_mem_cons] at hparts
    rw [intercalate_underscore, snakeFrom_append_of_isSnakeWord _ _ _ hparts.1,
      snakeFrom_flatMap_underscore hparts.2]
    simp

/-- A text that is written for a name from inside a word on: the rest of that word and further
words, with the letters and digits of the name. -/
structure Spells (cs text first : List Char) (more : List (List Char)) : Prop where
  text_eq : text = first ++ more.flatMap ('_' :: ·)
  first_small : ∀ c ∈ first, isSmallOrDigit c = true
  more_words : ∀ part ∈ more, IsSnakeWord part
  content : first ++ more.flatten = (cs.filter Char.isAlphanum).map Char.toLower

namespace Spells

variable {c : Char} {cs text first : List Char} {more : List (List Char)}

theorem skip (h : Spells cs text first more) (hc : c.isAlphanum = false) :
    Spells (c :: cs) text first more where
  text_eq := h.text_eq
  first_small := h.first_small
  more_words := h.more_words
  content := by rw [h.content, List.filter_cons_of_neg (by simp [hc])]

theorem letter (h : Spells cs text first more) (hascii : isAscii c = true)
    (hc : c.isAlphanum = true) :
    Spells (c :: cs) (c.toLower :: text) (c.toLower :: first) more where
  text_eq := by rw [h.text_eq, List.cons_append]
  first_small := List.forall_mem_cons.2 ⟨(alphanum_of_isAscii hascii).2.1 hc, h.first_small⟩
  more_words := h.more_words
  content := by rw [List.filter_cons_of_pos hc, List.map_cons, ← h.content, List.cons_append]

/-- An underscore ends the word before it, of which nothing is left to write. -/
theorem underscore (h : Spells cs text first more) (hne : first ≠ []) :
    Spells cs ('_' :: text) [] (first :: more) where
  text_eq := by simp [h.text_eq]
  first_small := by simp
  more_words := List.forall_mem_cons.2 ⟨⟨hne, h.first_small⟩, h.more_words⟩
  content := by rw [← h.content, List.flatten_cons, List.nil_append]

theorem filter_text (h : Spells cs text first more) :
    text.filter Char.isAlphanum = (cs.filter Char.isAlphanum).map Char.toLower := by
  have hword {word : List Char} (hsmall : ∀ c ∈ word, isSmallOrDigit c = true) :
      word.filter Char.isAlphanum = word := by
    refine List.filter_eq_self.2 fun c hc => ?_
    exact ((alphanum_of_isAscii (isAscii_of_isSmallOrDigit (hsmall c hc))).2.2 (hsmall c hc)).1
  have hmore : (more.flatMap ('_' :: ·)).filter Char.isAlphanum = more.flatten := by
    rw [List.filter_flatMap, ← List.flatMap_id]
    refine List.flatMap_congr fun part hpart => ?_
    rw [List.filter_cons_of_neg (by decide), hword (h.more_words part hpart).small, id]
  rw [h.text_eq, ← h.content, List.filter_append, hword h.first_small, hmore]

end Spells

/-- The words of a name are written one after the other. Nothing is left of a word that has ended,
and no underscore comes before the first word. -/
theorem exists_spells_snakeFrom {cs : List Char} (hcs : ∀ c ∈ cs, isAscii c = true)
    (started pending afterLower : Bool) (hpending : pending = true → started = true) :
    ∃ first more, Spells cs (snakeFrom started pending afterLower cs) first more ∧
      (pending = true → first = []) ∧
      (started = false → afterLower = false → first = [] → more = []) := by
  induction cs generalizing started pending afterLower with
  | nil => exact ⟨[], [], ⟨rfl, by simp, by simp, rfl⟩, fun _ => rfl, fun _ _ _ => rfl⟩
  | cons c cs ih =>
    rw [List.forall_mem_cons] at hcs
    obtain ⟨hascii, hcs⟩ := hcs
    have hword := (alphanum_of_isAscii hascii).1
    cases hc : c.isAlphanum with
    | false =>
      obtain ⟨first, more, hrest, hfirst, hmore⟩ := ih hcs started started false id
      rw [snakeFrom_other (hword.trans hc)]
      exact ⟨first, more, hrest.skip hc, fun h => hfirst (hpending h), fun h _ => hmore h rfl⟩
    | true =>
      obtain ⟨first, more, hrest, -, -⟩ :=
        ih hcs true false (isLowercase c || c.isDigit) fun _ => rfl
      have hletter := hrest.letter hascii hc
      rw [snakeFrom, if_pos (hword.trans hc), lowerChar_of_isAscii hascii]
      cases hbegin : pending || (isUppercase c && afterLower) with
      | true =>
        refine ⟨[], _, hletter.underscore (by simp), fun _ => rfl, fun hstarted hafter => ?_⟩
        cases pending <;> simp_all
      | false => exact ⟨_, more, hletter, by simp_all, by simp⟩

/-- The snake case of a name in ASCII has the form of one. It has the letters and digits of the name
in lower case and in order, and is its own snake case. -/
theorem snake_canonical {name : String} (h : ∀ c ∈ name.toList, isAscii c = true) :
    IsSnakeCase (snake name).toList ∧
      (snake name).toList.filter Char.isAlphanum =
        (name.toList.filter Char.isAlphanum).map Char.toLower ∧
      snake (snake name) = snake name := by
  obtain ⟨first, more, hspells, -, hmore⟩ :=
    exists_spells_snakeFrom h false false false (by simp)
  have hform : IsSnakeCase (snakeFrom false false false name.toList) := by
    rw [hspells.text_eq]
    by_cases hfirst : first = []
    · exact ⟨[], by simp, by simp [hfirst, hmore rfl rfl hfirst]⟩
    · exact ⟨first :: more, List.forall_mem_cons.2 ⟨⟨hfirst, hspells.first_small⟩,
        hspells.more_words⟩, (intercalate_underscore first more).symm⟩
  rw [snake_eq (snake name), snake_eq, String.toList_ofList, snakeFrom_of_isSnakeCase hform]
  exact ⟨hform, hspells.filter_text, rfl⟩

/-- Breaks at both ends and several in a row, and capitals behind a digit and a small letter. -/
theorem snake_canonical_lineTotal :
    (∀ c ∈ "_Line2TOTAL--iD9x__".toList, isAscii c = true) ∧
      snake "_Line2TOTAL--iD9x__" = "line2_total_i_d9x" ∧
      IsSnakeCase (snake "_Line2TOTAL--iD9x__").toList ∧
      (snake "_Line2TOTAL--iD9x__").toList.filter Char.isAlphanum =
        ("_Line2TOTAL--iD9x__".toList.filter Char.isAlphanum).map Char.toLower ∧
      snake (snake "_Line2TOTAL--iD9x__") = snake "_Line2TOTAL--iD9x__" := by
  have hascii : ∀ c ∈ "_Line2TOTAL--iD9x__".toList, isAscii c = true :=
    List.all_eq_true.1 (by decide +kernel)
  exact ⟨hascii, by decide +kernel, snake_canonical hascii⟩

end TypedQueries.Naming
