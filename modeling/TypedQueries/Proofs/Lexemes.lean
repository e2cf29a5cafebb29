import TypedQueries.Proofs.Trivia

/-!
Where a lexeme ends depends on the character behind it only. So a lexeme may be moved to another gap
and in front of another text, and a word in a text may be put into double quotes, and all other
lexemes stay as they are.
-/

namespace TypedQueries.Lexeme

/-- The text of lexemes with their gaps, and of what stands behind them. -/
def textOf (ls : List Lexeme) (last : List Char) : List Char :=
  ls.flatMap (fun l => l.gap ++ l.raw) ++ last

theorem textOf_cons (l : Lexeme) (ls : List Lexeme) (last : List Char) :
    textOf (l :: ls) last = l.gap ++ (l.raw ++ textOf ls last) := by
  simp [textOf]

/-- Opens a text at its first lexeme. -/
theorem ofText_eq_cons {cs last : List Char} {l : Lexeme} {ls : List Lexeme}
    (h : ofText cs = (l :: ls, last)) :
    ∃ c rest, splitGap cs = (l.gap, c :: rest) ∧ (splitLexeme c rest).1 = l.kind ∧
      (splitLexeme c rest).2.1 = l.raw ∧ ofText (splitLexeme c rest).2.2 = (ls, last) := by
  rw [ofText] at h
  split at h
  · cases h
  · rename_i gap c rest hgap
    cases hrest : ofText (splitLexeme c rest).2.2 with
    | mk lexemes final =>
      simp only [hrest] at h
      cases h
      exact ⟨c, rest, hgap, rfl, rfl, hrest⟩

theorem ofText_of_eq {cs gap rest : List Char} {c : Char} (h : splitGap cs = (gap, c :: rest)) :
    ofText cs = (⟨gap, (splitLexeme c rest).1, (splitLexeme c rest).2.1⟩ ::
      (ofText (splitLexeme c rest).2.2).1, (ofText (splitLexeme c rest).2.2).2) := by
  rw [ofText]
  split <;> rename_i h' <;> rw [h] at h' <;> cases h'
  rfl

theorem ofText_of_eq_nil {cs gap : List Char} (h : splitGap cs = (gap, [])) :
    ofText cs = ([], gap) := by
  rw [ofText]
  split <;> rename_i h' <;> rw [h] at h' <;> cases h'
  rfl

theorem textOf_ofText (cs : List Char) : textOf (ofText cs).1 (ofText cs).2 = cs := by
  fun_induction ofText cs with
  | case1 cs gap h =>
    have happend := splitGap_append cs
    simpa [h, textOf] using happend
  | case2 cs gap c rest h piece lexemes last hrest ih =>
    have happend := splitGap_append cs
    rw [h] at happend
    rw [hrest] at ih
    rw [textOf_cons, ih, splitLexeme_append]
    exact happend

theorem textOf_of_ofText_eq {cs last : List Char} {ls : List Lexeme} (h : ofText cs = (ls, last)) :
    textOf ls last = cs := by
  have htext := textOf_ofText cs
  rwa [h] at htext

/-- The characters that end every lexeme in front of them. -/
def isDivider (c : Char) : Bool := c == '"' || Text.isBlank c

theorem isWordPart_of_isDivider {c : Char} (h : isDivider c = true) : Text.isWordPart c = false := by
  simp only [isDivider, Bool.or_eq_true, beq_iff_eq] at h
  rcases h with rfl | h
  · decide
  · exact Text.isWordPart_of_isBlank h

theorem isDigit_of_isDivider {c : Char} (h : isDivider c = true) : c.isDigit = false := by
  by_contra hd
  have hpart := Text.isWordPart_of_isDigit (by simpa using hd)
  rw [isWordPart_of_isDivider h] at hpart
  cases hpart

/-- Whether a lexeme that ends in front of `rest` ends in front of `rest'` too: both begin alike, or
a divider takes the place of the beginning. -/
def EndsAlike (rest rest' : List Char) : Prop :=
  rest'.head? = rest.head? ∨ rest ≠ [] ∧ ∃ d ∈ rest'.head?, isDivider d = true

theorem EndsAlike.eq_nil {rest' : List Char} (h : EndsAlike [] rest') : rest' = [] := by
  rcases h with h | ⟨hne, -⟩
  · exact List.head?_eq_none_iff.1 h
  · exact absurd rfl hne

/-- What does not go on with the first character of `rest` does not go on with that of `rest'`. -/
theorem EndsAlike.head?_eq_false {p : Char → Bool} (hp : ∀ {d}, isDivider d = true → p d = false)
    {rest rest' : List Char} (h : EndsAlike rest rest') (hrest : ∀ d ∈ rest.head?, p d = false) :
    ∀ d ∈ rest'.head?, p d = false := by
  rcases h with h | ⟨-, d, hd, hdivider⟩
  · rwa [h]
  · intro e he
    cases hd.symm.trans he
    exact hp hdivider

theorem EndsAlike.takeWhile_append {p : Char → Bool} (hp : ∀ {d}, isDivider d = true → p d = false)
    {cs rest' : List Char} (h : EndsAlike (cs.dropWhile p) rest') :
    (cs.takeWhile p ++ rest').takeWhile p = cs.takeWhile p ∧
      (cs.takeWhile p ++ rest').dropWhile p = rest' := by
  have htake : ∀ d ∈ cs.takeWhile p, p d = true := fun d hd => List.mem_takeWhile_imp hd
  have hdrop : ∀ d ∈ (cs.dropWhile p).head?, p d = false := by
    intro d hd
    have hnot := List.head?_dropWhile_not p cs
    rwa [Option.mem_def.1 hd] at hnot
  have hend : rest'.takeWhile p = [] ∧ rest'.dropWhile p = rest' := by
    cases rest' with
    | nil => exact ⟨rfl, rfl⟩
    | cons e rest' => simp [h.head?_eq_false hp hdrop e rfl]
  rw [List.takeWhile_append_of_pos htake, List.dropWhile_append_of_pos htake, hend.1, hend.2,
    List.append_nil]
  exact ⟨rfl, rfl⟩

theorem splitQuoted?_quote {quote : Char} {rest : List Char}
    (hr : quote = '\'' → rest.head? ≠ some '\'') :
    splitQuoted? quote (quote :: rest) = some ([quote], rest) := by
  cases rest with
  | nil => simp [splitQuoted?]
  | cons d rest =>
    have hd : ¬ (quote = '\'' ∧ d = '\'') := by
      rintro ⟨hq, rfl⟩
      exact hr hq rfl
    rw [splitQuoted?]
    simp [hd]

theorem splitQuoted?_of_next {quote : Char} {cs body rest rest' : List Char}
    (h : splitQuoted? quote cs = some (body, rest))
    (hr : quote = '\'' → rest'.head? ≠ some '\'') :
    splitQuoted? quote (body ++ rest') = some (body, rest') := by
  fun_induction splitQuoted? quote cs generalizing body rest with
  | case1 => cases h
  | case2 d ds hq ih =>
    obtain ⟨⟨b, r⟩, hb, heq⟩ := Option.map_eq_some_iff.1 h
    cases heq
    simp only [Bool.and_eq_true, decide_eq_true_eq] at hq
    obtain ⟨rfl, rfl⟩ := hq
    simp [splitQuoted?, ih hb]
  | case3 d ds hq =>
    cases h
    exact splitQuoted?_quote hr
  | case4 =>
    cases h
    exact splitQuoted?_quote hr
  | case5 c cs hc ih =>
    obtain ⟨⟨b, r⟩, hb, heq⟩ := Option.map_eq_some_iff.1 h
    cases heq
    rw [List.cons_append, splitQuoted?_cons_of_ne hc, ih hb]
    rfl

/-- Behind a text in single quotes stands no further single quote. -/
theorem head?_of_splitQuoted? {quote : Char} {cs body rest : List Char}
    (h : splitQuoted? quote cs = some (body, rest)) (hq : quote = '\'') :
    rest.head? ≠ some '\'' := by
  fun_induction splitQuoted? quote cs generalizing body rest with
  | case1 => cases h
  | case2 d ds hd ih =>
    obtain ⟨⟨b, r⟩, hb, heq⟩ := Option.map_eq_some_iff.1 h
    cases heq
    exact ih hb
  | case3 d ds hd =>
    cases h
    simpa [hq] using hd
  | case4 =>
    cases h
    simp
  | case5 c cs hc ih =>
    obtain ⟨⟨b, r⟩, hb, heq⟩ := Option.map_eq_some_iff.1 h
    cases heq
    exact ih hb

/-- The characters that begin a symbol. -/
def symbolStarts : List Char := ['=', ',', ';', '(', ')', '*', '$', '<', '>', '!']

theorem splitLexeme_of_not_mem {c : Char} (h : c ∉ symbolStarts) (cs : List Char) :
    splitLexeme c cs =
      if c = '\'' || c = '"' then
        match splitQuoted? c cs with
        | some (body, rest) => (.string, c :: body, rest)
        | none => (.illegal, c :: cs, [])
      else if c.isDigit then
        (.integer, c :: cs.takeWhile Char.isDigit, cs.dropWhile Char.isDigit)
      else if Text.isWordStart c then
        (wordKind (c :: cs.takeWhile Text.isWordPart), c :: cs.takeWhile Text.isWordPart,
          cs.dropWhile Text.isWordPart)
      else (.illegal, [c], cs) := by
  unfold splitLexeme
  split <;> first | rfl | exact absurd (by simp [symbolStarts]) h

theorem EndsAlike.head?_ne {rest rest' : List Char} (h : EndsAlike rest rest') {d : Char}
    (hd : isDivider d = false) (hr : rest.head? ≠ some d) : rest'.head? ≠ some d := by
  intro hd'
  have hne : ∀ e ∈ rest.head?, (e == d) = false := by
    intro e he
    simpa using fun heq : e = d => hr (heq ▸ he)
  have hdivider {e : Char} (he : isDivider e = true) : (e == d) = false := by
    simpa using fun heq : e = d => by rw [heq, hd] at he; cases he
  simpa using h.head?_eq_false hdivider hne d hd'

theorem splitLexeme_lt {cs : List Char} (he : cs.head? ≠ some '=') (hg : cs.head? ≠ some '>') :
    splitLexeme '<' cs = (.lt, ['<'], cs) := by
  unfold splitLexeme
  split <;> simp_all

theorem splitLexeme_gt {cs : List Char} (he : cs.head? ≠ some '=') :
    splitLexeme '>' cs = (.gt, ['>'], cs) := by
  unfold splitLexeme
  split <;> simp_all

theorem splitLexeme_bang {cs : List Char} (he : cs.head? ≠ some '=') :
    splitLexeme '!' cs = (.illegal, ['!'], cs) := by
  have hstart : Text.isWordStart '!' = false := by decide
  unfold splitLexeme
  split <;> simp_all

section

variable {cs raw rest rest' : List Char} {kind : TokenKind}

theorem splitLexeme_lt_of_next (h : splitLexeme '<' cs = (kind, raw, rest))
    (hr : EndsAlike rest rest') : splitLexeme '<' (raw.tail ++ rest') = (kind, raw, rest') := by
  by_cases he : cs.head? = some '='
  · obtain ⟨ds, rfl⟩ := List.head?_eq_some_iff.1 he
    cases h
    rfl
  · by_cases hg : cs.head? = some '>'
    · obtain ⟨ds, rfl⟩ := List.head?_eq_some_iff.1 hg
      cases h
      rfl
    · rw [splitLexeme_lt he hg] at h
      cases h
      exact splitLexeme_lt (hr.head?_ne (by decide) he) (hr.head?_ne (by decide) hg)

theorem splitLexeme_gt_of_next (h : splitLexeme '>' cs = (kind, raw, rest))
    (hr : EndsAlike rest rest') : splitLexeme '>' (raw.tail ++ rest') = (kind, raw, rest') := by
  by_cases he : cs.head? = some '='
  · obtain ⟨ds, rfl⟩ := List.head?_eq_some_iff.1 he
    cases h
    rfl
  · rw [splitLexeme_gt he] at h
    cases h
    exact splitLexeme_gt (hr.head?_ne (by decide) he)

theorem splitLexeme_bang_of_next (h : splitLexeme '!' cs = (kind, raw, rest))
    (hr : EndsAlike rest rest') : splitLexeme '!' (raw.tail ++ rest') = (kind, raw, rest') := by
  by_cases he : cs.head? = some '='
  · obtain ⟨ds, rfl⟩ := List.head?_eq_some_iff.1 he
    cases h
    rfl
  · rw [splitLexeme_bang he] at h
    cases h
    exact splitLexeme_bang (hr.head?_ne (by decide) he)

end

/-- A lexeme stays the same if what follows it begins alike. -/
theorem splitLexeme_of_next {c : Char} {cs raw rest rest' : List Char} {kind : TokenKind}
    (h : splitLexeme c cs = (kind, raw, rest)) (hr : EndsAlike rest rest') :
    splitLexeme c (raw.tail ++ rest') = (kind, raw, rest') := by
  by_cases hc : c ∈ symbolStarts
  · simp only [symbolStarts, List.mem_cons, List.not_mem_nil, or_false] at hc
    rcases hc with rfl | rfl | rfl | rfl | rfl | rfl | rfl | rfl | rfl | rfl
    case inr.inr.inr.inr.inr.inr.inr.inl => exact splitLexeme_lt_of_next h hr
    case inr.inr.inr.inr.inr.inr.inr.inr.inl => exact splitLexeme_gt_of_next h hr
    case inr.inr.inr.inr.inr.inr.inr.inr.inr => exact splitLexeme_bang_of_next h hr
    all_goals
      cases h
      rfl
  · rw [splitLexeme_of_not_mem hc] at h ⊢
    split at h
    · rename_i hquote
      rw [if_pos hquote]
      split at h
      · rename_i body rest1 hbody
        cases h
        have hend : c = '\'' → rest'.head? ≠ some '\'' := fun hsingle =>
          hr.head?_ne (by decide) (head?_of_splitQuoted? hbody hsingle)
        rw [List.tail_cons, splitQuoted?_of_next hbody hend]
      · rename_i hopen
        cases h
        rw [hr.eq_nil, List.tail_cons, List.append_nil, hopen]
    · rename_i hquote
      rw [if_neg hquote]
      split at h
      · rename_i hdigit
        cases h
        obtain ⟨htake, hdrop⟩ := hr.takeWhile_append isDigit_of_isDivider
        rw [if_pos hdigit, List.tail_cons, htake, hdrop]
      · rename_i hdigit
        rw [if_neg hdigit]
        split at h
        · rename_i hword
          simp only [Prod.mk.injEq] at h
          obtain ⟨rfl, rfl, rfl⟩ := h
          obtain ⟨htake, hdrop⟩ := hr.takeWhile_append isWordPart_of_isDivider
          rw [if_pos hword, List.tail_cons, htake, hdrop]
        · rename_i hword
          cases h
          rw [if_neg hword]
          rfl

theorem EndsAlike.append_left {rest rest' : List Char} (h : EndsAlike rest rest')
    (cs : List Char) : EndsAlike (cs ++ rest) (cs ++ rest') := by
  cases cs with
  | nil => exact h
  | cons c cs => exact Or.inl rfl

theorem solid_of_next {c : Char} {rest rest' : List Char} (h : Solid (c :: rest))
    (hr : EndsAlike rest rest') : Solid (c :: rest') := by
  obtain ⟨hblank, hline, hblock⟩ := solid_cons_iff.1 h
  exact solid_cons_iff.2 ⟨hblank, fun hc => hr.head?_ne (by decide) (hline hc),
    fun hc => hr.head?_ne (by decide) (hblock hc)⟩

/-- Opens a text behind its first gap. -/
theorem exists_raw_of_ofText_eq_cons {cs last : List Char} {l : Lexeme} {ls : List Lexeme}
    (h : ofText cs = (l :: ls, last)) :
    ∃ c tail, l.raw = c :: tail ∧ Solid (c :: (tail ++ textOf ls last)) ∧
      splitLexeme c (tail ++ textOf ls last) = (l.kind, l.raw, textOf ls last) ∧
      IsTrivia l.gap ∧ ofText (textOf ls last) = (ls, last) := by
  obtain ⟨c, rest, hgap, hkind, hraw, hrest⟩ := ofText_eq_cons h
  have htext := textOf_of_ofText_eq hrest
  have happend := splitLexeme_append c rest
  rw [hraw, ← htext] at happend
  obtain ⟨d, tail, htail⟩ := List.exists_cons_of_ne_nil (hraw ▸ splitLexeme_ne_nil c rest)
  rw [htail, List.cons_append, List.cons.injEq] at happend
  obtain ⟨rfl, happend⟩ := happend
  refine ⟨d, tail, htail, ?_, ?_, (isTrivia_of_splitGap hgap).1 (by simp), by rwa [htext]⟩
  · rw [happend]
    exact solid_of_splitGap hgap
  · rw [happend, ← hkind, ← hraw, htext]

/-- The first lexeme of a text stays the same behind any gap and in front of a text that begins
alike. -/
theorem ofText_append_of_next {cs last gap rest : List Char} {l : Lexeme} {ls : List Lexeme}
    (h : ofText cs = (l :: ls, last)) (hgap : IsTrivia gap)
    (hr : EndsAlike (textOf ls last) rest) :
    ofText (gap ++ (l.raw ++ rest)) =
      (⟨gap, l.kind, l.raw⟩ :: (ofText rest).1, (ofText rest).2) := by
  obtain ⟨c, tail, hraw, hsolid, hsplit, -, -⟩ := exists_raw_of_ofText_eq_cons h
  have hgap' := splitGap_of_isTrivia hgap (solid_of_next hsolid (hr.append_left tail))
  have hsplit' := splitLexeme_of_next hsplit hr
  rw [hraw, List.tail_cons] at hsplit'
  rw [hraw, List.cons_append, ofText_of_eq hgap', hsplit']

/-- The kinds of the symbols that another character may lengthen, and of the lengthened ones. -/
def comparisonKinds : List TokenKind := [.lt, .gt, .ltEq, .gtEq, .notEq]

/-- What may be cut off as one lexeme, and its kind. -/
inductive IsLexeme : TokenKind → List Char → Prop
  | symbol {c : Char} {kind : TokenKind} (h : (c, kind) ∈ symbols) : IsLexeme kind [c]
  | comparison {kind : TokenKind} {raw : List Char} (h : kind ∈ comparisonKinds) : IsLexeme kind raw
  | quoted {quote : Char} {cs body rest : List Char} (hq : quote = '\'' ∨ quote = '"')
      (h : splitQuoted? quote cs = some (body, rest)) : IsLexeme .string (quote :: body)
  | integer {raw : List Char} : IsLexeme .integer raw
  | word {raw : List Char} (h : Text.isWord raw = true) : IsLexeme (wordKind raw) raw
  | illegal {raw : List Char} : IsLexeme .illegal raw

theorem isLexeme_splitLexeme (c : Char) (cs : List Char) :
    IsLexeme (splitLexeme c cs).1 (splitLexeme c cs).2.1 := by
  unfold splitLexeme
  split
  case h_14 =>
    split
    · rename_i hq
      split
      · rename_i hbody
        exact .quoted (by simpa using hq) hbody
      · exact .illegal
    · split
      · exact .integer
      · split
        · rename_i hstart
          have hword : Text.isWord (c :: cs.takeWhile Text.isWordPart) = true :=
            Text.isWord_cons.2 ⟨hstart, fun d hd => List.mem_takeWhile_imp hd⟩
          dsimp only
          exact .word hword
        · exact .illegal
  all_goals
    dsimp only
    first | exact .symbol (by decide) | exact .comparison (by decide)

theorem isLexeme_of_mem {cs : List Char} {l : Lexeme} (h : l ∈ (ofText cs).1) :
    IsLexeme l.kind l.raw := by
  fun_induction ofText cs with
  | case1 => cases h
  | case2 cs gap c rest hgap piece lexemes last hrest ih =>
    rcases List.mem_cons.1 h with rfl | h
    · exact isLexeme_splitLexeme c rest
    · rw [hrest] at ih
      exact ih h

theorem wordKind_cases (raw : List Char) :
    wordKind raw = .ident ∨ ∃ k, wordKind raw = .keyword k := by
  unfold wordKind
  split
  · exact Or.inr ⟨_, rfl⟩
  · exact Or.inl rfl

/-- Only words make identifiers and keywords. -/
theorem IsLexeme.isWord {kind : TokenKind} {raw : List Char} (h : IsLexeme kind raw)
    (hkind : kind = .ident ∨ ∃ k, kind = .keyword k) :
    Text.isWord raw = true ∧ kind = wordKind raw := by
  cases h with
  | symbol h => rcases hkind with rfl | ⟨k, rfl⟩ <;> simp [symbols] at h
  | comparison h => rcases hkind with rfl | ⟨k, rfl⟩ <;> simp [comparisonKinds] at h
  | quoted => simp at hkind
  | integer => simp at hkind
  | word h => exact ⟨h, rfl⟩
  | illegal => simp at hkind

/-- A symbol of one character is that character. -/
theorem IsLexeme.raw_of_mem_symbols {d : Char} {kind : TokenKind} {raw : List Char}
    (h : IsLexeme kind raw) (hd : (d, kind) ∈ symbols) : raw = [d] := by
  cases h with
  | @symbol c _ h =>
    have hunique : ∀ p ∈ symbols, ∀ q ∈ symbols, p.2 = q.2 → p.1 = q.1 := by decide
    rw [show c = d from hunique _ h _ hd rfl]
  | comparison h =>
    have hother : ∀ kind ∈ comparisonKinds, ∀ p ∈ symbols, p.2 ≠ kind := by decide
    exact absurd rfl (hother _ h _ hd)
  | quoted => simp [symbols] at hd
  | integer => simp [symbols] at hd
  | word =>
    rcases wordKind_cases raw with hk | ⟨k, hk⟩ <;> rw [hk] at hd <;> simp [symbols] at hd
  | illegal => simp [symbols] at hd

/-- What stands in single quotes is a text with its quotes doubled. -/
theorem exists_doubleQuotes {cs body rest : List Char}
    (h : splitQuoted? '\'' cs = some (body, rest)) :
    ∃ inside, body = doubleQuotes inside ++ ['\''] := by
  generalize hquote : '\'' = quote at h
  fun_induction splitQuoted? quote cs generalizing body rest with
  | case1 => cases h
  | case2 d ds hd ih =>
    subst hquote
    obtain ⟨⟨b, r⟩, hb, heq⟩ := Option.map_eq_some_iff.1 h
    cases heq
    obtain ⟨inside, rfl⟩ := ih hb
    have hd : d = '\'' := by simpa using hd
    exact ⟨'\'' :: inside, by simp [hd]⟩
  | case3 =>
    cases h
    exact ⟨[], by simp⟩
  | case4 =>
    cases h
    exact ⟨[], by simp⟩
  | case5 c cs hc ih =>
    obtain ⟨⟨b, r⟩, hb, heq⟩ := Option.map_eq_some_iff.1 h
    cases heq
    obtain ⟨inside, rfl⟩ := ih hb
    subst hquote
    exact ⟨c :: inside, by rw [doubleQuotes_cons hc, List.cons_append]⟩

/-- What stands in other quotes does not hold them. -/
theorem exists_of_splitQuoted? {quote : Char} {cs body rest : List Char}
    (h : splitQuoted? quote cs = some (body, rest)) (hq : quote ≠ '\'') :
    ∃ inside, body = inside ++ [quote] ∧ quote ∉ inside := by
  fun_induction splitQuoted? quote cs generalizing body rest with
  | case1 => cases h
  | case2 d ds hd ih => simp [hq] at hd
  | case3 =>
    cases h
    exact ⟨[], rfl, by simp⟩
  | case4 =>
    cases h
    exact ⟨[], rfl, by simp⟩
  | case5 c cs hc ih =>
    obtain ⟨⟨b, r⟩, hb, heq⟩ := Option.map_eq_some_iff.1 h
    cases heq
    obtain ⟨inside, rfl, hinside⟩ := ih hb
    exact ⟨c :: inside, rfl, by simp [Ne.symm hc, hinside]⟩

/-- A quoted lexeme is its text in single quotes, as it would be rendered, or in double quotes. -/
theorem IsLexeme.raw_of_string {kind : TokenKind} {raw : List Char} (h : IsLexeme kind raw)
    (hk : kind = .string) :
    raw = (quoteText (String.ofList (unquote raw))).toList ∨
      raw = '"' :: (unquote raw ++ ['"']) ∧ '"' ∉ unquote raw := by
  cases h with
  | symbol h => simp [hk, symbols] at h
  | comparison h => simp [hk, comparisonKinds] at h
  | quoted hq h =>
    rcases hq with rfl | rfl
    · obtain ⟨inside, rfl⟩ := exists_doubleQuotes h
      exact Or.inl (by simp [toList_quoteText, unquote, undouble_doubleQuotes])
    · obtain ⟨inside, rfl, hinside⟩ := exists_of_splitQuoted? h (by decide)
      exact Or.inr (by simpa [unquote] using hinside)
  | integer => cases hk
  | word => rcases wordKind_cases raw with h | ⟨k, h⟩ <;> rw [h] at hk <;> cases hk
  | illegal => cases hk

theorem raw_of_string {cs : List Char} {l : Lexeme} (h : l ∈ (ofText cs).1) (hk : l.kind = .string) :
    l.raw = (quoteText l.literal).toList ∨
      l.raw = '"' :: (l.literal.toList ++ ['"']) ∧ '"' ∉ l.literal.toList := by
  have hliteral : l.literal = String.ofList (unquote l.raw) := by rw [literal, hk]
  rw [hliteral, String.toList_ofList]
  exact (isLexeme_of_mem h).raw_of_string hk

@[simp]
theorem kind_token (l : Lexeme) : l.token.kind = l.kind := rfl

@[simp]
theorem literal_token (l : Lexeme) : l.token.literal = l.literal := rfl

theorem isWord_of_isColumnWord {cs : List Char} {l : Lexeme} (h : l ∈ (ofText cs).1)
    (hl : l.token.isColumnWord = true) :
    Text.isWord l.raw = true ∧ l.token = wordToken (Text.upper (String.ofList l.raw)) := by
  have hkind : l.kind = .ident ∨ ∃ k, l.kind = .keyword k := by
    unfold Token.isColumnWord at hl
    split at hl <;> rename_i hk
    · exact Or.inl hk
    · exact Or.inr ⟨_, hk⟩
    · cases hl
  obtain ⟨hword, hkind⟩ := (isLexeme_of_mem h).isWord hkind
  refine ⟨hword, ?_⟩
  rw [← tokenOf_wordKind, ← hkind]
  rfl

/-- A word in double quotes. -/
def quoted (l : Lexeme) : Lexeme := ⟨l.gap, .string, '"' :: (l.raw ++ ['"'])⟩

theorem ne_quote_of_isWordPart {c : Char} (h : Text.isWordPart c = true) : c ≠ '"' := by
  rintro rfl
  exact absurd h (by decide)

theorem splitLexeme_quoted {word : List Char} (h : Text.isWord word = true) (rest : List Char) :
    splitLexeme '"' (word ++ '"' :: rest) = (.string, '"' :: (word ++ ['"']), rest) := by
  have hquoted : splitQuoted? '"' (word ++ '"' :: rest) = some (word ++ ['"'], rest) := by
    have hne : ∀ c ∈ word, c ≠ '"' := fun c hc =>
      ne_quote_of_isWordPart (Text.isWordPart_of_isWord h c hc)
    clear h
    induction word with
    | nil => exact splitQuoted?_quote nofun
    | cons c word ih =>
      rw [List.cons_append, splitQuoted?_cons_of_ne (hne c (by simp)),
        ih fun d hd => hne d (by simp [hd])]
      rfl
  rw [splitLexeme_of_not_mem (by decide), hquoted]
  rfl

theorem endsAlike_quoted (before after : List Lexeme) {l : Lexeme}
    (hl : Text.isWord l.raw = true) (last : List Char) :
    EndsAlike (textOf (before ++ l :: after) last) (textOf (before ++ l.quoted :: after) last) := by
  induction before with
  | nil =>
    have hraw : l.raw ≠ [] := by
      intro hraw
      rw [hraw] at hl
      cases hl
    simp only [List.nil_append, textOf_cons, quoted]
    exact EndsAlike.append_left (Or.inr ⟨by simp [hraw], '"', rfl, by decide⟩) l.gap
  | cons m before ih =>
    simp only [List.cons_append, textOf_cons]
    exact (ih.append_left m.raw).append_left m.gap

/-- Putting one word into double quotes changes that lexeme only. -/
theorem ofText_quoted {cs last : List Char} {before after : List Lexeme} {l : Lexeme}
    (h : ofText cs = (before ++ l :: after, last)) (hl : Text.isWord l.raw = true) :
    ofText (textOf (before ++ l.quoted :: after) last) = (before ++ l.quoted :: after, last) := by
  induction before generalizing cs with
  | nil =>
    obtain ⟨c, tail, -, -, -, hgap, hafter⟩ := exists_raw_of_ofText_eq_cons h
    have hsolid : Solid ('"' :: (l.raw ++ '"' :: textOf after last)) :=
      solid_cons_iff.2 ⟨by decide, by simp, by simp⟩
    have htext : textOf ([] ++ l.quoted :: after) last =
        l.gap ++ '"' :: (l.raw ++ '"' :: textOf after last) := by
      simp [textOf_cons, quoted]
    rw [htext, ofText_of_eq (splitGap_of_isTrivia hgap hsolid), splitLexeme_quoted hl, hafter]
    rfl
  | cons m before ih =>
    rw [List.cons_append] at h
    obtain ⟨c, tail, -, -, -, hgap, hrest⟩ := exists_raw_of_ofText_eq_cons h
    have hends := endsAlike_quoted before after hl last
    rw [List.cons_append, textOf_cons, ofText_append_of_next h hgap hends, ih hrest]

end TypedQueries.Lexeme
