import TypedQueries.Proofs.Lexing

/-!
What stands between lexemes: blanks and comments, each comment closed, and behind the last lexeme
perhaps a comment that the text ends in. Cutting off a gap takes exactly such a text.
-/

namespace TypedQueries.Lexeme

/-- Blanks and comments. A line comment is closed by its line break, which is a blank. -/
inductive IsTrivia : List Char → Prop
  | nil : IsTrivia []
  | blank {c : Char} {cs : List Char} (hc : Text.isBlank c = true) (h : IsTrivia cs) :
      IsTrivia (c :: cs)
  | line {body cs : List Char} (hbody : '\n' ∉ body) (h : IsTrivia cs) :
      IsTrivia ('-' :: '-' :: (body ++ '\n' :: cs))
  | block {body cs : List Char} (hbody : ¬ ['*', '/'] <:+: body) (h : IsTrivia cs) :
      IsTrivia ('/' :: '*' :: (body ++ '*' :: '/' :: cs))

/-- A comment that nothing closes. -/
inductive IsOpenComment : List Char → Prop
  | line {body : List Char} (hbody : '\n' ∉ body) : IsOpenComment ('-' :: '-' :: body)
  | block {body : List Char} (hbody : ¬ ['*', '/'] <:+: body) : IsOpenComment ('/' :: '*' :: body)

/-- Blanks and comments that a text ends in. -/
def IsLastTrivia (cs : List Char) : Prop :=
  IsTrivia cs ∨ ∃ closed tail, cs = closed ++ tail ∧ IsTrivia closed ∧ IsOpenComment tail

theorem IsTrivia.append {cs ds : List Char} (hc : IsTrivia cs) (hd : IsTrivia ds) :
    IsTrivia (cs ++ ds) := by
  induction hc with
  | nil => exact hd
  | blank hc _ ih => exact .blank hc ih
  | line hbody _ ih => simpa using IsTrivia.line hbody ih
  | block hbody _ ih => simpa using IsTrivia.block hbody ih

theorem IsLastTrivia.append_left {cs ds : List Char} (hc : IsTrivia cs) (hd : IsLastTrivia ds) :
    IsLastTrivia (cs ++ ds) := by
  rcases hd with hd | ⟨closed, tail, rfl, hclosed, htail⟩
  · exact Or.inl (hc.append hd)
  · exact Or.inr ⟨cs ++ closed, tail, by simp, hc.append hclosed, htail⟩

theorem IsTrivia.of_newline {cs : List Char} (h : IsTrivia ('\n' :: cs)) : IsTrivia cs := by
  cases h with
  | blank _ h => exact h

theorem IsLastTrivia.of_newline {cs : List Char} (h : IsLastTrivia ('\n' :: cs)) :
    IsLastTrivia cs := by
  rcases h with h | ⟨closed, tail, heq, hclosed, htail⟩
  · exact Or.inl h.of_newline
  · cases closed with
    | nil =>
      rw [List.nil_append] at heq
      subst heq
      cases htail
    | cons d closed =>
      cases heq
      exact Or.inr ⟨closed, tail, rfl, hclosed.of_newline, htail⟩

/-- The mark that closes a comment is not cut in two by a character that is put in front. -/
theorem not_infix_cons {c : Char} {cs : List Char} (h : ¬ ['*', '/'] <:+: cs)
    (hc : ∀ ds, c = '*' → cs = '/' :: ds → False) : ¬ ['*', '/'] <:+: c :: cs := by
  intro hin
  rcases List.infix_cons_iff.1 hin with ⟨ds, hds⟩ | hin
  · cases hds
    exact hc _ rfl rfl
  · exact h hin

/-- A comment is cut off behind the first mark that closes it, or takes all. -/
theorem splitComment_cases (cs : List Char) :
    (∃ body rest, cs = body ++ '*' :: '/' :: rest ∧ ¬ ['*', '/'] <:+: body ∧
      splitComment cs = (body ++ ['*', '/'], rest)) ∨
    ¬ ['*', '/'] <:+: cs ∧ splitComment cs = (cs, []) := by
  fun_induction splitComment cs with
  | case1 => exact Or.inr ⟨by simp, rfl⟩
  | case2 cs => exact Or.inl ⟨[], cs, rfl, by simp, rfl⟩
  | case3 c cs hc inside rest hsplit ih =>
    rw [hsplit] at ih
    rcases ih with ⟨body, rest', rfl, hbody, heq⟩ | ⟨hcs, heq⟩
    · cases heq
      refine Or.inl ⟨c :: body, rest, rfl, not_infix_cons hbody ?_, rfl⟩
      rintro ds rfl rfl
      exact hc _ rfl rfl
    · cases heq
      exact Or.inr ⟨not_infix_cons hcs hc, rfl⟩

theorem splitComment_of_not_infix {body : List Char} (h : ¬ ['*', '/'] <:+: body)
    (rest : List Char) :
    splitComment (body ++ '*' :: '/' :: rest) = (body ++ ['*', '/'], rest) := by
  induction body with
  | nil => rfl
  | cons c body ih =>
    have hbody : ¬ ['*', '/'] <:+: body := fun hin => h (List.infix_cons_iff.2 (Or.inr hin))
    have hc : ∀ ds, c = '*' → body ++ '*' :: '/' :: rest = '/' :: ds → False := by
      rintro ds rfl hds
      cases body with
      | nil => cases hds
      | cons d body =>
        cases hds
        exact h ⟨[], body, rfl⟩
    rw [List.cons_append, splitComment.eq_3 _ _ hc, ih hbody]
    rfl

/-- Cutting off a gap takes trivia only, and an open comment only if nothing is left behind it. -/
theorem isTrivia_of_splitGap {cs gap rest : List Char} (h : splitGap cs = (gap, rest)) :
    (rest ≠ [] → IsTrivia gap) ∧ IsLastTrivia gap := by
  -- a gap that is trivia is trivia at the end of a text too
  suffices hcases : IsTrivia gap ∨ rest = [] ∧ IsLastTrivia gap by
    rcases hcases with htrivia | ⟨hnil, hlast⟩
    · exact ⟨fun _ => htrivia, Or.inl htrivia⟩
    · exact ⟨fun hne => absurd hnil hne, hlast⟩
  have hfront {front gap : List Char} (hf : IsTrivia front)
      (hg : IsTrivia gap ∨ rest = [] ∧ IsLastTrivia gap) :
      IsTrivia (front ++ gap) ∨ rest = [] ∧ IsLastTrivia (front ++ gap) :=
    hg.imp hf.append fun ⟨hnil, hlast⟩ => ⟨hnil, hlast.append_left hf⟩
  fun_induction splitGap cs generalizing gap with
  | case1 =>
    cases h
    exact Or.inl .nil
  | case2 cs gap' rest' hrest ih =>
    cases h
    have hbody : '\n' ∉ cs.takeWhile (· != '\n') := by
      intro hmem
      simpa using List.mem_takeWhile_imp hmem
    cases hdrop : cs.dropWhile (· != '\n') with
    | nil =>
      rw [hdrop, splitGap] at hrest
      cases hrest
      exact Or.inr ⟨rfl, Or.inr ⟨[], _, rfl, .nil, by simpa using IsOpenComment.line hbody⟩⟩
    | cons d ds =>
      -- the line break that closes the comment is the first character of the gap behind it
      have hbreak := List.head?_dropWhile_not (· != '\n') cs
      simp only [hdrop, List.head?_cons, bne_eq_false_iff_eq] at hbreak
      subst hbreak
      have hgap := ih hrest
      rw [hdrop, splitGap_of_isBlank (by decide)] at hrest
      cases hrest
      have hfirst := hgap.imp IsTrivia.of_newline (And.imp_right IsLastTrivia.of_newline)
      simpa using hfront (.line hbody .nil) hfirst
  | case3 cs gap' rest' hrest ih =>
    cases h
    rcases splitComment_cases cs with ⟨body, rest1, rfl, hbody, heq⟩ | ⟨hcs, heq⟩
    · simp only [heq] at hrest ⊢
      have := hfront (.block hbody .nil) (ih (by rw [heq]; exact hrest))
      simpa using this
    · rw [heq, splitGap] at hrest
      cases hrest
      exact Or.inr ⟨rfl, Or.inr ⟨[], _, rfl, .nil, by simpa [heq] using IsOpenComment.block hcs⟩⟩
  | case4 d cs hline hblock hblank gap' rest' hrest ih =>
    cases h
    exact hfront (.blank hblank .nil) (ih hrest)
  | case5 d cs hline hblock hblank =>
    cases h
    exact Or.inl .nil

/-- A text that begins with a lexeme. -/
def Solid (cs : List Char) : Prop := splitGap cs = ([], cs)

theorem solid_of_splitGap {cs gap : List Char} {c : Char} {rest : List Char}
    (h : splitGap cs = (gap, c :: rest)) : Solid (c :: rest) := by
  fun_induction splitGap cs generalizing gap with
  | case1 => cases h
  | case2 cs gap' rest' hrest ih =>
    cases h
    exact ih hrest
  | case3 cs gap' rest' hrest ih =>
    cases h
    exact ih hrest
  | case4 d cs hline hblock hblank gap' rest' hrest ih =>
    cases h
    exact ih hrest
  | case5 d cs hline hblock hblank =>
    cases h
    rw [Solid, splitGap.eq_4 _ _ hline hblock, if_neg hblank]

theorem solid_cons_iff {c : Char} {cs : List Char} :
    Solid (c :: cs) ↔ Text.isBlank c = false ∧ (c = '-' → cs.head? ≠ some '-') ∧
      (c = '/' → cs.head? ≠ some '*') := by
  rw [Solid]
  constructor
  · intro h
    refine ⟨?_, ?_, ?_⟩
    · cases hblank : Text.isBlank c with
      | false => rfl
      | true =>
        rw [splitGap_of_isBlank hblank] at h
        cases h
    · rintro rfl hhead
      obtain ⟨ds, rfl⟩ := List.head?_eq_some_iff.1 hhead
      rw [splitGap] at h
      cases h
    · rintro rfl hhead
      obtain ⟨ds, rfl⟩ := List.head?_eq_some_iff.1 hhead
      rw [splitGap] at h
      cases h
  · rintro ⟨hblank, hline, hblock⟩
    have hline' : ∀ ds, c = '-' → cs = '-' :: ds → False := fun ds hc hds =>
      hline hc (by rw [hds]; rfl)
    have hblock' : ∀ ds, c = '/' → cs = '*' :: ds → False := fun ds hc hds =>
      hblock hc (by rw [hds]; rfl)
    rw [splitGap.eq_4 _ _ hline' hblock']
    simp [hblank]

/-- A gap of trivia is cut off as it is in front of a lexeme, or at the end of the text. -/
theorem splitGap_of_isTrivia {gap more : List Char} (hgap : IsTrivia gap) (hmore : Solid more) :
    splitGap (gap ++ more) = (gap, more) := by
  induction hgap with
  | nil => exact hmore
  | blank hc _ ih => rw [List.cons_append, splitGap_of_isBlank hc, ih]
  | @line body cs hbody _ ih =>
    have hne : ∀ d ∈ body, (d != '\n') = true := by
      intro d hd
      simpa using fun heq : d = '\n' => hbody (heq ▸ hd)
    simp only [List.cons_append, List.append_assoc]
    rw [splitGap, List.takeWhile_append_of_pos hne, List.dropWhile_append_of_pos hne,
      List.takeWhile_cons_of_neg (by decide), List.dropWhile_cons_of_neg (by decide),
      splitGap_of_isBlank (by decide), ih]
    simp
  | @block body cs hbody _ ih =>
    simp only [List.cons_append, List.append_assoc]
    rw [splitGap, splitComment_of_not_infix hbody, ih]
    simp

end TypedQueries.Lexeme
