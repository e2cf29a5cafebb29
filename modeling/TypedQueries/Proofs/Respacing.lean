import Mathlib.Data.List.Forall2
import Mathlib.Data.List.Infix
import TypedQueries.Proofs.Lexemes
import TypedQueries.Proofs.UnplacedSchema

/-!
Both grammars read the lexemes of a text, and nothing else of it. If other blanks and closed comments
are put between the lexemes, and if words are written in other letter case, then a text is read as
before, or it is rejected for the same reason.
-/

namespace TypedQueries

namespace Text

theorem isWord_map_toLower (cs : List Char) : isWord (cs.map Char.toLower) = isWord cs := by
  have hstart (c : Char) : isWordStart c.toLower = isWordStart c :=
    apply_toLower (by decide +kernel) c
  have hpart (c : Char) : isWordPart c.toLower = isWordPart c :=
    apply_toLower (by decide +kernel) c
  cases cs with
  | nil => rfl
  | cons c cs => simp [isWord, hstart, hpart, Function.comp_def]

theorem flatMap_upperChar_map_toLower (cs : List Char) :
    (cs.map Char.toLower).flatMap upperChar = cs.flatMap upperChar := by
  have hupper (c : Char) : upperChar c.toLower = upperChar c :=
    apply_toLower (by decide +kernel) c
  simp [List.flatMap_map, hupper]

section

variable {cs ds : List Char}

theorem isWord_of_equalIgnoringCase
    (h : equalIgnoringCase (String.ofList cs) (String.ofList ds) = true) :
    isWord cs = isWord ds := by
  have hmap : cs.map Char.toLower = ds.map Char.toLower := by simpa [equalIgnoringCase] using h
  rw [← isWord_map_toLower cs, hmap, isWord_map_toLower]

theorem upper_of_equalIgnoringCase
    (h : equalIgnoringCase (String.ofList cs) (String.ofList ds) = true) :
    upper (String.ofList cs) = upper (String.ofList ds) := by
  have hmap : cs.map Char.toLower = ds.map Char.toLower := by simpa [equalIgnoringCase] using h
  simp only [upper, String.toList_ofList]
  rw [← flatMap_upperChar_map_toLower cs, hmap, flatMap_upperChar_map_toLower]

end

end Text

namespace Lexeme

/-- `l'` is `l` behind another gap, which begins with a blank. A word may be in other letter case. -/
structure Respaced (l l' : Lexeme) : Prop where
  trivia : IsTrivia l'.gap
  blank : ∃ c ∈ l'.gap.head?, Text.isBlank c = true
  kind : l'.kind = l.kind
  raw : l'.raw = l.raw ∨ (l.kind = .ident ∨ ∃ k, l.kind = .keyword k) ∧
    Text.equalIgnoringCase (String.ofList l'.raw) (String.ofList l.raw) = true

theorem Respaced.token_eq {l l' : Lexeme} (h : Respaced l l') : l'.token = l.token := by
  obtain ⟨gap, kind, raw⟩ := l
  obtain ⟨gap', kind', raw'⟩ := l'
  obtain rfl : kind' = kind := h.kind
  rcases h.raw with hraw | ⟨hword, hcase⟩
  · obtain rfl : raw' = raw := hraw
    rfl
  · have hupper := Text.upper_of_equalIgnoringCase hcase
    rcases hword with hword | ⟨k, hword⟩ <;> dsimp only at hword <;> subst hword <;>
      exact congrArg (Token.mk _ · _) hupper

theorem map_token_of_respaced {ls ls' : List Lexeme} (h : List.Forall₂ Respaced ls ls') :
    ls'.map token = ls.map token := by
  induction h with
  | nil => rfl
  | cons hl _ ih => rw [List.map_cons, List.map_cons, hl.token_eq, ih]

theorem solid_of_isWordStart {c : Char} (h : Text.isWordStart c = true) (cs : List Char) :
    Solid (c :: cs) := by
  refine solid_cons_iff.2 ⟨Text.isBlank_of_isWordPart (Text.isWordPart_of_isWordStart h), ?_, ?_⟩
  · rintro rfl
    exact absurd h (by decide)
  · rintro rfl
    exact absurd h (by decide)

/-- A word behind a gap, in front of a text that does not go on with it. -/
theorem ofText_word {gap word rest : List Char} (hgap : IsTrivia gap)
    (hword : Text.isWord word = true) (hr : ∀ d ∈ rest.head?, Text.isWordPart d = false) :
    ofText (gap ++ (word ++ rest)) =
      (⟨gap, wordKind word, word⟩ :: (ofText rest).1, (ofText rest).2) := by
  cases word with
  | nil => cases hword
  | cons c cs =>
    have hc := (Text.isWord_cons.1 hword).1
    have hends : Text.endsWord rest = true := by
      cases rest with
      | nil => rfl
      | cons d rest => simp [Text.endsWord, hr d rfl]
    rw [List.cons_append,
      ofText_of_eq (splitGap_of_isTrivia hgap (solid_of_isWordStart hc (cs ++ rest))),
      splitLexeme_of_isWord hword hends]

/-- Behind a word stands no character that would go on with it. -/
theorem head?_of_ofText_word {cs last : List Char} {l : Lexeme} {ls : List Lexeme}
    (h : ofText cs = (l :: ls, last)) (hword : Text.isWord l.raw = true) :
    ∀ d ∈ (textOf ls last).head?, Text.isWordPart d = false := by
  obtain ⟨c, tail, hraw, -, hsplit, -, -⟩ := exists_raw_of_ofText_eq_cons h
  rw [hraw] at hword
  rw [splitLexeme_of_isWordStart (Text.isWord_cons.1 hword).1] at hsplit
  have hdrop : (tail ++ textOf ls last).dropWhile Text.isWordPart = textOf ls last :=
    congrArg (fun p => p.2.2) hsplit
  intro d hd
  have hnot := List.head?_dropWhile_not Text.isWordPart (tail ++ textOf ls last)
  rwa [hdrop, Option.mem_def.1 hd] at hnot

/-- Moving the first lexeme of a text behind another gap, with other text behind it. -/
theorem Respaced.ofText_append {cs last rest : List Char} {l l' : Lexeme} {ls : List Lexeme}
    (hl : Respaced l l') (h : ofText cs = (l :: ls, last))
    (hr : EndsAlike (textOf ls last) rest) :
    ofText (l'.gap ++ (l'.raw ++ rest)) = (l' :: (ofText rest).1, (ofText rest).2) := by
  obtain ⟨gap', kind', raw'⟩ := l'
  obtain rfl : kind' = l.kind := hl.kind
  rcases hl.raw with hraw | ⟨hkind, hcase⟩
  · obtain rfl : raw' = l.raw := hraw
    have hmoved := ofText_append_of_next h hl.trivia hr
    exact hmoved
  · have hmem : l ∈ (ofText cs).1 := by rw [h]; exact List.mem_cons_self
    obtain ⟨hword, hkind⟩ := (isLexeme_of_mem hmem).isWord hkind
    have hsame : wordKind raw' = l.kind := by
      rw [hkind, wordKind, wordKind, Text.upper_of_equalIgnoringCase hcase]
    rw [← hsame]
    exact ofText_word hl.trivia ((Text.isWord_of_equalIgnoringCase hcase).trans hword)
      (hr.head?_eq_false isWordPart_of_isDivider (head?_of_ofText_word h hword))

/-- Moving all lexemes of a text leaves it with the moved lexemes. -/
theorem ofText_respaced {cs last : List Char} {ls ls' : List Lexeme} (h : ofText cs = (ls, last))
    (hls : List.Forall₂ Respaced ls ls') : ofText (textOf ls' last) = (ls', last) := by
  induction hls generalizing cs with
  | nil => rwa [← textOf_of_ofText_eq h] at h
  | @cons l l' ls ls' hl hls ih =>
    obtain ⟨c, tail, hraw, -, -, -, hrest⟩ := exists_raw_of_ofText_eq_cons h
    have hends : EndsAlike (textOf ls last) (textOf ls' last) := by
      cases hls with
      | nil => exact Or.inl rfl
      | @cons m m' ls ls' hm _ =>
        obtain ⟨d, hd, hblank⟩ := hm.blank
        obtain ⟨e, raw, hmraw, -⟩ := exists_raw_of_ofText_eq_cons hrest
        refine Or.inr ⟨by simp [textOf_cons, hmraw], d, ?_, by simp [isDivider, hblank]⟩
        obtain ⟨ds, hds⟩ := List.head?_eq_some_iff.1 hd
        simp [textOf_cons, hds]
    rw [textOf_cons, hl.ofText_append h hends, ih hrest]

end Lexeme

/-- `source'` is `source` with other gaps in front of its lexemes and with words in other letter
case. What stands behind the last lexeme is the same. -/
def Respaced (source source' : String) : Prop :=
  ∃ ls', List.Forall₂ Lexeme.Respaced (Lexeme.ofText source.toList).1 ls' ∧
    source'.toList = Lexeme.textOf ls' (Lexeme.ofText source.toList).2

theorem Respaced.tokensOf_eq {source source' : String} (h : Respaced source source') :
    tokensOf source'.toList = tokensOf source.toList := by
  obtain ⟨ls', hls, htext⟩ := h
  rw [tokensOf, htext, Lexeme.ofText_respaced rfl hls]
  exact Lexeme.map_token_of_respaced hls

@[simp]
theorem SyntaxFault.found?_unplaced (f : SyntaxFault) : f.unplaced.found? = f.found? := by
  cases f <;> rfl

/-- The same value, or errors of which only the places differ. -/
def SameOutcome {α : Type} : Except SyntaxError α → Except SyntaxError α → Prop
  | .ok a, .ok b => a = b
  | .error e, .error f => e.fault.message = f.fault.message ∧ e.fault.found? = f.fault.found? ∧
      e.field? = f.field?
  | _, _ => False

theorem sameOutcome_of_unplaced {α : Type} {x y : Except SyntaxError α}
    (h : unplacedResult id x = unplacedResult id y) : SameOutcome x y := by
  match x, y, h with
  | .ok a, .ok b, h => exact Except.ok.inj h
  | .error e, .error f, h =>
    have he : e.unplaced = f.unplaced := Except.error.inj h
    have hfault : e.fault.unplaced = f.fault.unplaced := congrArg SyntaxError.fault he
    have hfield : e.unplaced.field? = f.unplaced.field? := congrArg SyntaxError.field? he
    refine ⟨?_, ?_, hfield⟩
    · rw [← SyntaxFault.message_unplaced, hfault, SyntaxFault.message_unplaced]
    · rw [← SyntaxFault.found?_unplaced, hfault, SyntaxFault.found?_unplaced]

/-- Respacing a text changes neither what it is read as nor why it is rejected. -/
theorem sameOutcome_of_respaced {source source' : String} (h : Respaced source source') :
    SameOutcome (parseQuery source) (parseQuery source') ∧
      ∀ now, SameOutcome (parseSchema now source) (parseSchema now source') := by
  have hcursor : (Cursor.ofSource source).unplaced = (Cursor.ofSource source').unplaced := by
    rw [unplaced_ofSource, unplaced_ofSource, h.tokensOf_eq]
  constructor
  · apply sameOutcome_of_unplaced
    rw [Query.parseQuery_eq, Query.parseQuery_eq, ← Query.parseTokens_unplaced,
      ← Query.parseTokens_unplaced, hcursor]
  · intro now
    apply sameOutcome_of_unplaced
    rw [parseSchema, parseSchema, ← Schema.takeItems_unplaced, ← Schema.takeItems_unplaced, hcursor]

/-- Texts with lexemes that touch each other and with a comment at the end, and the same lexemes
apart. -/
theorem sameOutcome_starText :
    Respaced "select*from\"t\"limit 1--end" "\nSelect --all\n* /*/*/FROM \"t\" Limit 1--end" ∧
      SameOutcome (parseQuery "select*from\"t\"limit 1--end")
        (parseQuery "\nSelect --all\n* /*/*/FROM \"t\" Limit 1--end") ∧
      ∀ now, SameOutcome (parseSchema now "select*from\"t\"limit 1--end")
        (parseSchema now "\nSelect --all\n* /*/*/FROM \"t\" Limit 1--end") := by
  have hlexemes : Lexeme.ofText "select*from\"t\"limit 1--end".toList =
      ([⟨[], .keyword .select, "select".toList⟩, ⟨[], .star, ['*']⟩,
        ⟨[], .keyword .from, "from".toList⟩, ⟨[], .string, "\"t\"".toList⟩,
        ⟨[], .keyword .limit, "limit".toList⟩, ⟨[' '], .integer, ['1']⟩], "--end".toList) := by
    decide +kernel
  have hspace : Lexeme.IsTrivia [' '] := .blank (by decide) .nil
  have hline : Lexeme.IsTrivia " --all\n".toList :=
    .blank (by decide) (.line (by decide : '\n' ∉ "all".toList) .nil)
  have hblock : Lexeme.IsTrivia " /*/*/".toList :=
    .blank (by decide) (.block (by decide : ¬ ['*', '/'] <:+: ['/']) .nil)
  have h : Respaced "select*from\"t\"limit 1--end"
      "\nSelect --all\n* /*/*/FROM \"t\" Limit 1--end" := by
    refine ⟨[⟨['\n'], .keyword .select, "Select".toList⟩, ⟨" --all\n".toList, .star, ['*']⟩,
      ⟨" /*/*/".toList, .keyword .from, "FROM".toList⟩, ⟨[' '], .string, "\"t\"".toList⟩,
      ⟨[' '], .keyword .limit, "Limit".toList⟩, ⟨[' '], .integer, ['1']⟩], ?_, ?_⟩
    · rw [hlexemes]
      refine .cons ⟨.blank (by decide) .nil, ⟨'\n', rfl, by decide⟩, rfl, ?_⟩ (.cons
        ⟨hline, ⟨' ', rfl, by decide⟩, rfl, Or.inl rfl⟩ (.cons
        ⟨hblock, ⟨' ', rfl, by decide⟩, rfl, ?_⟩ (.cons
        ⟨hspace, ⟨' ', rfl, by decide⟩, rfl, Or.inl rfl⟩ (.cons
        ⟨hspace, ⟨' ', rfl, by decide⟩, rfl, ?_⟩ (.cons
        ⟨hspace, ⟨' ', rfl, by decide⟩, rfl, Or.inl rfl⟩ .nil)))))
      all_goals exact Or.inr ⟨Or.inr ⟨_, rfl⟩, by decide⟩
    · rw [hlexemes]
      decide
  exact ⟨h, sameOutcome_of_respaced h⟩

end TypedQueries
