import TypedQueries.Proofs.Lexemes

/-!
The tokens of a text account for all of it. Their places lie in the text one behind the other, what
stands between two of them is trivia, and what a token says is what the text says at its place.
Whoever reads on behind the last token gets the end of input again and again.
-/

namespace TypedQueries

namespace Text

theorem utf8ByteSize_ofList (cs : List Char) : (String.ofList cs).utf8ByteSize = byteLength cs := by
  induction cs with
  | nil => rfl
  | cons c cs ih =>
    rw [← List.singleton_append, String.ofList_append, String.utf8ByteSize_append, ih,
      byteLength_append]
    simp

theorem byteLength_toList (s : String) : byteLength s.toList = s.utf8ByteSize := by
  rw [← utf8ByteSize_ofList, String.ofList_toList]

theorem isValid_byteLength (before after : List Char) :
    String.Pos.Raw.IsValid (String.ofList (before ++ after)) ⟨byteLength before⟩ := by
  refine String.Pos.Raw.isValid_iff_exists_append.2
    ⟨String.ofList before, String.ofList after, String.ofList_append, ?_⟩
  rw [← utf8ByteSize_ofList]
  rfl

theorem slice?_append (before part after : List Char) :
    slice? (byteLength before) (byteLength before + byteLength part) (before ++ (part ++ after)) =
      some part := by
  simp [slice?, splitAtByte?_append]

end Text

/-- What a token says if `text` is the part of the source that it stands for: a word is put into
capitals, a quoted text loses its quotes, and a doubled single quote inside single quotes is one. -/
def Token.Reads (t : Token) (text : String) : Prop :=
  match t.kind with
  | .ident | .keyword _ => t.literal = Text.upper text
  | .string => text = quoteText t.literal ∨
      text = "\"" ++ t.literal ++ "\"" ∧ '"' ∉ t.literal.toList
  | _ => t.literal = text

/-- The token of a lexeme whose text begins at byte `start`. -/
def Lexeme.tokenAt (start : Nat) (l : Lexeme) : Token :=
  ⟨l.kind, l.literal, ⟨start, start + Text.byteLength l.raw⟩⟩

namespace Lexeme

theorem kind_ne_endOfInput_of_isLexeme {kind : TokenKind} {raw : List Char}
    (h : IsLexeme kind raw) : kind ≠ .endOfInput := by
  cases h with
  | symbol h => rintro rfl; simp [symbols] at h
  | comparison h => rintro rfl; simp [comparisonKinds] at h
  | quoted => simp
  | integer => simp
  | word => rcases wordKind_cases raw with hk | ⟨k, hk⟩ <;> simp [hk]
  | illegal => simp

theorem reads_tokenAt {l : Lexeme} (h : IsLexeme l.kind l.raw) (start : Nat) :
    (l.tokenAt start).Reads (String.ofList l.raw) := by
  obtain ⟨gap, kind, raw⟩ := l
  cases kind
  case string =>
    rcases h.raw_of_string rfl with hraw | ⟨hraw, hquote⟩
    · exact Or.inl (String.toList_injective (by simpa [tokenAt, literal] using hraw))
    · refine Or.inr ⟨String.toList_injective ?_, by simpa [tokenAt, literal] using hquote⟩
      simpa [tokenAt, literal] using hraw
  all_goals rfl

end Lexeme

theorem kind_ne_endOfInput_of_mem {source : String} {t : Token} (h : t ∈ sourceTokens source) :
    t.kind ≠ .endOfInput := by
  have hmem : t.unplaced ∈ (Lexeme.ofText source.toList).1.map Lexeme.token := by
    rw [← unplaced_tokensFrom 0]
    exact List.mem_map_of_mem h
  obtain ⟨l, hl, heq⟩ := List.mem_map.1 hmem
  have hkind : l.kind = t.kind := congrArg Token.kind heq
  rw [← hkind]
  exact Lexeme.kind_ne_endOfInput_of_isLexeme (Lexeme.isLexeme_of_mem hl)

/-- Tokens that cut a text, which begins at byte `pos`, into trivia and what they stand for. -/
inductive Covers : Nat → List Char → List Token → Prop
  | last {pos : Nat} {gap : List Char} (hgap : Lexeme.IsLastTrivia gap) :
      Covers pos gap [Token.endOfInput (pos + Text.byteLength gap)]
  | token {pos : Nat} {gap raw rest : List Char} {t : Token} {ts : List Token}
      (hgap : Lexeme.IsTrivia gap) (hraw : raw ≠ []) (hkind : t.kind ≠ .endOfInput)
      (hspan : t.span = ⟨pos + Text.byteLength gap, pos + Text.byteLength gap + Text.byteLength raw⟩)
      (hreads : t.Reads (String.ofList raw)) (h : Covers t.span.stop rest ts) :
      Covers pos (gap ++ (raw ++ rest)) (t :: ts)

/-- The tokens of a text from byte `pos` on, closed by the end of input. -/
theorem covers_tokensFrom (pos : Nat) (cs : List Char) :
    Covers pos cs (Lexeme.tokensFrom pos (Lexeme.ofText cs).1 ++
      [Token.endOfInput (pos + Text.byteLength cs)]) := by
  fun_induction Lexeme.ofText cs generalizing pos with
  | case1 cs gap hgap =>
    have happend := Lexeme.splitGap_append cs
    rw [hgap, List.append_nil] at happend
    subst happend
    exact .last (Lexeme.isTrivia_of_splitGap hgap).2
  | case2 cs gap c rest hgap piece lexemes last hrest ih =>
    rw [hrest] at ih
    have htext : cs = gap ++ (piece.2.1 ++ piece.2.2) := by
      rw [Lexeme.splitLexeme_append, ← Lexeme.splitGap_append cs, hgap]
    have hlexeme := Lexeme.isLexeme_splitLexeme c rest
    have hsize : pos + Text.byteLength cs = pos + Text.byteLength gap +
        Text.byteLength piece.2.1 + Text.byteLength piece.2.2 := by
      rw [htext]
      simp [Nat.add_assoc]
    rw [hsize, htext]
    exact .token ((Lexeme.isTrivia_of_splitGap hgap).1 (by simp)) (Lexeme.splitLexeme_ne_nil c rest)
      (Lexeme.kind_ne_endOfInput_of_isLexeme hlexeme) rfl
      (Lexeme.reads_tokenAt (l := ⟨gap, piece.1, piece.2.1⟩) hlexeme _) (ih _)

/-- Where the text behind tokens begins: at the end of the last one, at `pos` if there is none. -/
def endOf (pos : Nat) (ts : List Token) : Nat := (ts.getLast?.map fun t => t.span.stop).getD pos

theorem endOf_cons (pos : Nat) (t : Token) (ts : List Token) :
    endOf pos (t :: ts) = endOf t.span.stop ts := by
  cases ts <;> simp [endOf, List.getLast?_cons]

namespace Covers

variable {pos : Nat} {cs : List Char} {ts : List Token}

/-- Every token stands for the part of the text at its place. -/
theorem exists_part (h : Covers pos cs ts) (front : List Char) (hfront : Text.byteLength front = pos)
    {t : Token} (ht : t ∈ ts) :
    ∃ before part after, front ++ cs = before ++ (part ++ after) ∧
      t.span = ⟨Text.byteLength before, Text.byteLength before + Text.byteLength part⟩ ∧
      t.Reads (String.ofList part) := by
  induction h generalizing front with
  | @last pos gap hgap =>
    rcases List.mem_singleton.1 ht with rfl
    exact ⟨front ++ gap, [], [], by simp, by simp [Token.endOfInput, Span.point, hfront], rfl⟩
  | @token pos gap raw rest u ts hgap hraw hkind hspan hreads h ih =>
    rcases List.mem_cons.1 ht with rfl | ht
    · exact ⟨front ++ gap, raw, rest, by simp, by simp [hspan, hfront], hreads⟩
    · have hstop : Text.byteLength (front ++ (gap ++ raw)) = u.span.stop := by
        simp [hspan, hfront, Nat.add_assoc]
      obtain ⟨before, part, after, heq, hpart⟩ := ih _ hstop ht
      exact ⟨before, part, after, by simpa using heq, hpart⟩

/-- What stands between a token and the one before it is trivia. -/
theorem exists_gap (h : Covers pos cs ts) (front : List Char) (hfront : Text.byteLength front = pos)
    {before after : List Token} {t : Token} (ht : ts = before ++ t :: after) :
    ∃ ahead gap behind, front ++ cs = ahead ++ (gap ++ behind) ∧
      Text.byteLength ahead = endOf pos before ∧
      Text.byteLength ahead + Text.byteLength gap = t.span.start ∧
      (after ≠ [] → Lexeme.IsTrivia gap) ∧ Lexeme.IsLastTrivia gap := by
  induction h generalizing front before with
  | @last pos gap hgap =>
    obtain ⟨rfl, rfl, rfl⟩ : before = [] ∧ t = Token.endOfInput (pos + Text.byteLength gap) ∧
        after = [] := by
      cases before <;> simp_all
    exact ⟨front, gap, [], by simp, hfront, by simp [Token.endOfInput, Span.point, hfront],
      by simp, hgap⟩
  | @token pos gap raw rest u ts hgap hraw hkind hspan hreads h ih =>
    cases before with
    | nil =>
      cases ht
      exact ⟨front, gap, raw ++ rest, rfl, hfront, by simp [hspan, hfront], fun _ => hgap,
        Or.inl hgap⟩
    | cons u' before =>
      cases ht
      have hstop : Text.byteLength (front ++ (gap ++ raw)) = u.span.stop := by
        simp [hspan, hfront, Nat.add_assoc]
      obtain ⟨ahead, gap', behind, heq, hgap'⟩ := ih _ hstop rfl
      exact ⟨ahead, gap', behind, by simpa using heq, by rwa [endOf_cons]⟩

theorem le_start (h : Covers pos cs ts) : ∀ t ∈ ts, pos ≤ t.span.start := by
  induction h with
  | last => simp [Token.endOfInput, Span.point]
  | token _ _ _ hspan _ _ ih =>
    intro t ht
    rcases List.mem_cons.1 ht with rfl | ht
    · simp [hspan]
    · have := ih t ht
      simp only [hspan] at this
      omega

theorem pairwise (h : Covers pos cs ts) : ts.Pairwise fun t u => t.span.stop ≤ u.span.start := by
  induction h with
  | last => simp
  | token _ _ _ _ _ h ih => exact .cons h.le_start ih

theorem exists_init (h : Covers pos cs ts) :
    ∃ init, ts = init ++ [Token.endOfInput (pos + Text.byteLength cs)] ∧
      ∀ t ∈ init, t.kind ≠ .endOfInput ∧ t.span.start < t.span.stop := by
  induction h with
  | last => exact ⟨[], rfl, by simp⟩
  | @token pos gap raw rest u ts hgap hraw hkind hspan hreads h ih =>
    obtain ⟨init, rfl, hinit⟩ := ih
    refine ⟨u :: init, by simp [hspan, Nat.add_assoc], ?_⟩
    intro t ht
    rcases List.mem_cons.1 ht with rfl | ht
    · obtain ⟨c, raw, rfl⟩ := List.exists_cons_of_ne_nil hraw
      have := c.utf8Size_pos
      refine ⟨hkind, ?_⟩
      simp only [hspan, Text.byteLength_cons]
      omega
    · exact hinit t ht

end Covers

/-- The tokens `ts` account for the text `source`. -/
structure Accounts (source : String) (ts : List Token) : Prop where
  /-- Places are in range and on the boundaries of characters. -/
  valid : ∀ t ∈ ts, t.span.start ≤ t.span.stop ∧
    String.Pos.Raw.IsValid source ⟨t.span.start⟩ ∧ String.Pos.Raw.IsValid source ⟨t.span.stop⟩
  ordered : ts.Pairwise fun t u => t.span.stop ≤ u.span.start
  /-- Only the last token is the end of input, and only its place is empty. -/
  closed : ∃ init, ts = init ++ [Token.endOfInput source.utf8ByteSize] ∧
    ∀ t ∈ init, t.kind ≠ .endOfInput ∧ t.span.start < t.span.stop
  /-- Between a token and the one before it stands trivia; a comment may stay open at the end. -/
  gaps : ∀ before t after, ts = before ++ t :: after →
    ∃ gap, Text.slice? (endOf 0 before) t.span.start source.toList = some gap ∧
      (after ≠ [] → Lexeme.IsTrivia gap) ∧ Lexeme.IsLastTrivia gap
  reads : ∀ t ∈ ts, t.Reads (t.span.slice source)

theorem Covers.accounts {source : String} {ts : List Token} (h : Covers 0 source.toList ts) :
    Accounts source ts := by
  have hsize : 0 + Text.byteLength source.toList = source.utf8ByteSize := by
    rw [Nat.zero_add, Text.byteLength_toList]
  refine ⟨?_, h.pairwise, hsize ▸ h.exists_init, ?_, ?_⟩
  · intro t ht
    obtain ⟨before, part, after, heq, hspan, -⟩ := h.exists_part [] rfl ht
    have hsource : source = String.ofList (before ++ (part ++ after)) := by
      rw [← heq, List.nil_append, String.ofList_toList]
    refine ⟨by simp [hspan], ?_, ?_⟩
    · rw [hspan, hsource]
      exact Text.isValid_byteLength before (part ++ after)
    · rw [hspan, hsource, ← Text.byteLength_append, ← List.append_assoc]
      exact Text.isValid_byteLength (before ++ part) after
  · intro before t after ht
    obtain ⟨ahead, gap, behind, heq, hahead, hgap, htrivia⟩ := h.exists_gap [] rfl ht
    refine ⟨gap, ?_, htrivia⟩
    rw [← hahead, ← hgap, ← List.nil_append source.toList, heq, Text.slice?_append]
  · intro t ht
    obtain ⟨before, part, after, heq, hspan, hreads⟩ := h.exists_part [] rfl ht
    have hslice : t.span.slice source = String.ofList part := by
      rw [Span.slice, hspan, ← List.nil_append source.toList, heq, Text.slice?_append]
    rwa [hslice]

/-- How far a text is read: up to byte `pos`, and `rest` is still to come. -/
structure Reading where
  pos : Nat
  rest : List Char
  deriving DecidableEq, Repr

namespace Reading

def start (source : String) : Reading := ⟨0, source.toList⟩

/-- Reads one token, or the end of input if there is none. -/
def next (r : Reading) : Token × Reading :=
  match Lexeme.splitGap r.rest with
  | (gap, []) =>
    let stop := r.pos + Text.byteLength gap
    (Token.endOfInput stop, ⟨stop, []⟩)
  | (gap, c :: cs) =>
    let piece := Lexeme.splitLexeme c cs
    let t := Lexeme.tokenAt (r.pos + Text.byteLength gap) ⟨gap, piece.1, piece.2.1⟩
    (t, ⟨t.span.stop, piece.2.2⟩)

/-- Reads `n` tokens, one after the other. -/
def pull : Nat → Reading → List Token
  | 0, _ => []
  | n + 1, r => r.next.1 :: pull n r.next.2

theorem pull_eq (n : Nat) (r : Reading) :
    r.pull n = (Lexeme.tokensFrom r.pos (Lexeme.ofText r.rest).1).take n ++
      List.replicate (n - (Lexeme.ofText r.rest).1.length)
        (Token.endOfInput (r.pos + Text.byteLength r.rest)) := by
  induction n generalizing r with
  | zero => simp [pull]
  | succ n ih =>
    obtain ⟨pos, cs⟩ := r
    have happend := Lexeme.splitGap_append cs
    rw [pull, ih, next]
    cases hgap : Lexeme.splitGap cs with
    | mk gap rest =>
      rw [hgap] at happend
      cases rest with
      | nil =>
        have hnil : Lexeme.ofText [] = ([], []) := Lexeme.ofText_of_eq_nil (by rw [Lexeme.splitGap])
        obtain rfl : gap = cs := by simpa using happend
        simp [Lexeme.ofText_of_eq_nil hgap, hnil, Lexeme.tokensFrom, List.replicate_succ]
      | cons c rest =>
        have hsplit := Lexeme.splitLexeme_append c rest
        rw [Lexeme.ofText_of_eq hgap]
        simp [Lexeme.tokensFrom, Lexeme.tokenAt, ← happend, ← hsplit, Nat.add_assoc]

/-- Reading token after token gives the tokens of the text, and then the end of input forever. -/
theorem pull_start (source : String) (n : Nat) : (start source).pull n = pullTokens source n := by
  have hlength : (sourceTokens source).length = (Lexeme.ofText source.toList).1.length := by
    have hmap := congrArg List.length (unplaced_tokensFrom 0 (Lexeme.ofText source.toList).1)
    simpa [sourceTokens] using hmap
  rw [pull_eq, pullTokens]
  simp only [start, Nat.zero_add, Text.byteLength_toList, hlength]
  rfl

end Reading

/-- The tokens of a text account for it. They are what reading one token after the other gives, and
whoever reads on gets the same end of input each time. -/
theorem tokenize_accounts (source : String) :
    Accounts source (tokenize source) ∧
      (∀ n, (Reading.start source).pull n = pullTokens source n) ∧
      ∀ n, pullTokens source ((tokenize source).length + n) =
        tokenize source ++ List.replicate n (Token.endOfInput source.utf8ByteSize) := by
  have hsize : 0 + Text.byteLength source.toList = source.utf8ByteSize := by
    rw [Nat.zero_add, Text.byteLength_toList]
  refine ⟨Covers.accounts ?_, Reading.pull_start source, fun n => ?_⟩
  · rw [tokenize, ← hsize]
    exact covers_tokensFrom 0 source.toList
  · have hlength : (tokenize source).length + n = (sourceTokens source).length + (n + 1) := by
      simp only [tokenize, List.length_append, List.length_singleton]
      omega
    rw [pullTokens, hlength, List.take_of_length_le (by omega), Nat.add_sub_cancel_left,
      List.replicate_succ, tokenize, List.append_assoc, List.singleton_append]

end TypedQueries
