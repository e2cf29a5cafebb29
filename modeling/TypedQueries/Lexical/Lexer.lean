import TypedQueries.Lexical.Token
import TypedQueries.Text.Alphanumeric
import TypedQueries.Text.CaseMapping

/-!
Lexical analysis. A text is cut into lexemes, each with the gap of blanks and comments in front of
it, and a last gap; nothing is lost: gaps and lexemes put together give the text back. A token is a
lexeme together with its place.
-/

namespace TypedQueries

/-- A lexeme as it stands in the source, after a gap. -/
structure Lexeme where
  gap : List Char
  kind : TokenKind
  raw : List Char
  deriving DecidableEq, Repr

namespace Lexeme

/-- Cuts behind the first `*/`; a comment that is not closed takes all. -/
def splitComment : List Char → List Char × List Char
  | [] => ([], [])
  | '*' :: '/' :: cs => (['*', '/'], cs)
  | c :: cs => let (inside, rest) := splitComment cs; (c :: inside, rest)

theorem splitComment_append (cs : List Char) :
    (splitComment cs).1 ++ (splitComment cs).2 = cs := by
  fun_induction splitComment cs <;> simp_all

theorem splitComment_length (cs : List Char) : (splitComment cs).2.length ≤ cs.length := by
  have h := congrArg List.length (splitComment_append cs)
  simp at h
  omega

/-- Cuts off the blanks and comments in front. A line comment ends before its line break. -/
def splitGap : List Char → List Char × List Char
  | [] => ([], [])
  | '-' :: '-' :: cs =>
    let (gap, rest) := splitGap (cs.dropWhile (· != '\n'))
    ('-' :: '-' :: cs.takeWhile (· != '\n') ++ gap, rest)
  | '/' :: '*' :: cs =>
    let (gap, rest) := splitGap (splitComment cs).2
    ('/' :: '*' :: (splitComment cs).1 ++ gap, rest)
  | c :: cs =>
    if Text.isBlank c then let (gap, rest) := splitGap cs; (c :: gap, rest) else ([], c :: cs)
termination_by cs => cs.length
decreasing_by
  · have := (List.dropWhile_sublist (l := cs) (· != '\n')).length_le
    simp; omega
  · have := splitComment_length cs
    simp; omega
  · simp

theorem splitGap_append (cs : List Char) : (splitGap cs).1 ++ (splitGap cs).2 = cs := by
  fun_induction splitGap cs with
  | case1 => rfl
  | case2 cs gap rest h ih => simp_all [List.takeWhile_append_dropWhile]
  | case3 cs gap rest h ih =>
    have := splitComment_append cs
    simp_all
  | case4 => simp_all
  | case5 => simp_all

/-- Cuts behind the quote that closes a quoted text. Inside single quotes a doubled quote is part of
the text. -/
def splitQuoted? (quote : Char) : List Char → Option (List Char × List Char)
  | [] => none
  | c :: cs =>
    if c = quote then
      match cs with
      | d :: ds =>
        if quote = '\'' && d = '\'' then
          (splitQuoted? quote ds).map fun (body, rest) => (c :: d :: body, rest)
        else some ([c], d :: ds)
      | [] => some ([c], [])
    else (splitQuoted? quote cs).map fun (body, rest) => (c :: body, rest)

theorem splitQuoted?_append {quote : Char} {cs body rest : List Char}
    (h : splitQuoted? quote cs = some (body, rest)) : body ++ rest = cs := by
  fun_induction splitQuoted? quote cs generalizing body rest with
  | case1 => simp at h
  | case2 d ds hq ih =>
    obtain ⟨⟨b, r⟩, hb, heq⟩ := Option.map_eq_some_iff.1 h
    cases heq
    simp [ih hb]
  | case3 =>
    cases Option.some.inj h
    rfl
  | case4 =>
    cases Option.some.inj h
    rfl
  | case5 c cs hc ih =>
    obtain ⟨⟨b, r⟩, hb, heq⟩ := Option.map_eq_some_iff.1 h
    cases heq
    simp [ih hb]

/-- A word is a keyword if its capitals spell one. -/
def wordKind (word : List Char) : TokenKind :=
  match Keyword.ofText? (Text.upper (String.ofList word)) with
  | some k => .keyword k
  | none => .ident

/-- The lexeme that starts with `c`, as its kind and its text, and what follows it. -/
def splitLexeme (c : Char) (cs : List Char) : TokenKind × List Char × List Char :=
  match c, cs with
  | '=', cs => (.eq, [c], cs)
  | ',', cs => (.comma, [c], cs)
  | ';', cs => (.semicolon, [c], cs)
  | '(', cs => (.leftParen, [c], cs)
  | ')', cs => (.rightParen, [c], cs)
  | '*', cs => (.star, [c], cs)
  | '$', cs => (.dollar, [c], cs)
  | '<', '=' :: cs => (.ltEq, ['<', '='], cs)
  | '<', '>' :: cs => (.notEq, ['<', '>'], cs)
  | '<', cs => (.lt, [c], cs)
  | '>', '=' :: cs => (.gtEq, ['>', '='], cs)
  | '>', cs => (.gt, [c], cs)
  | '!', '=' :: cs => (.notEq, ['!', '='], cs)
  | c, cs =>
    if c = '\'' || c = '"' then
      match splitQuoted? c cs with
      | some (body, rest) => (.string, c :: body, rest)
      | none => (.illegal, c :: cs, [])
    else if c.isDigit then
      (.integer, c :: cs.takeWhile Char.isDigit, cs.dropWhile Char.isDigit)
    else if Text.isWordStart c then
      let word := c :: cs.takeWhile Text.isWordPart
      (wordKind word, word, cs.dropWhile Text.isWordPart)
    else (.illegal, [c], cs)

theorem splitLexeme_append (c : Char) (cs : List Char) :
    (splitLexeme c cs).2.1 ++ (splitLexeme c cs).2.2 = c :: cs := by
  unfold splitLexeme
  split <;> try rfl
  split
  · split
    · rename_i h
      simp [splitQuoted?_append h]
    · simp
  · split
    · simp [List.takeWhile_append_dropWhile]
    · split
      · simp [List.takeWhile_append_dropWhile]
      · rfl

theorem splitLexeme_ne_nil (c : Char) (cs : List Char) : (splitLexeme c cs).2.1 ≠ [] := by
  unfold splitLexeme
  split <;> try simp
  split
  · split <;> simp
  · split
    · simp
    · split <;> simp

theorem splitLexeme_length (c : Char) (cs : List Char) :
    (splitLexeme c cs).2.2.length < cs.length + 1 := by
  have h := congrArg List.length (splitLexeme_append c cs)
  have hne := List.length_pos_iff.2 (splitLexeme_ne_nil c cs)
  simp at h
  omega

/-- Reads two single quotes in a row as one. -/
def undouble : List Char → List Char
  | [] => []
  | '\'' :: '\'' :: cs => '\'' :: undouble cs
  | c :: cs => c :: undouble cs

/-- The text inside the quotes of a quoted lexeme. -/
def unquote : List Char → List Char
  | [] => []
  | quote :: cs => if quote = '\'' then undouble cs.dropLast else cs.dropLast

/-- The text of the token that a lexeme makes. -/
def literal (l : Lexeme) : String :=
  match l.kind with
  | .ident | .keyword _ => Text.upper (String.ofList l.raw)
  | .string => String.ofList (unquote l.raw)
  | _ => String.ofList l.raw

/-- The lexemes of a text and the gap behind the last one. -/
def ofText (cs : List Char) : List Lexeme × List Char :=
  match _h : splitGap cs with
  | (gap, []) => ([], gap)
  | (gap, c :: rest) =>
    let piece := splitLexeme c rest
    let (lexemes, last) := ofText piece.2.2
    (⟨gap, piece.1, piece.2.1⟩ :: lexemes, last)
termination_by cs.length
decreasing_by
  have h1 := congrArg List.length (splitGap_append cs)
  have h2 := splitLexeme_length c rest
  simp [_h] at h1
  omega

/-- The tokens of lexemes that follow each other from byte `pos` on. -/
def tokensFrom (pos : Nat) : List Lexeme → List Token
  | [] => []
  | l :: ls =>
    let start := pos + Text.byteLength l.gap
    let stop := start + Text.byteLength l.raw
    ⟨l.kind, l.literal, ⟨start, stop⟩⟩ :: tokensFrom stop ls

end Lexeme

/-- The tokens of a source text, without the end of input. -/
def sourceTokens (source : String) : List Token :=
  Lexeme.tokensFrom 0 (Lexeme.ofText source.toList).1

/-- The tokens of a source text, closed by the end of input. -/
def tokenize (source : String) : List Token :=
  sourceTokens source ++ [Token.endOfInput source.utf8ByteSize]

/-- The first `n` tokens of a source text, where the end of input never ends. -/
def pullTokens (source : String) (n : Nat) : List Token :=
  let ts := sourceTokens source
  ts.take n ++ List.replicate (n - ts.length) (Token.endOfInput source.utf8ByteSize)

end TypedQueries
