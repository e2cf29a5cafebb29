import TypedQueries.Lexical.Lexer
import TypedQueries.Lexical.SyntaxError
import TypedQueries.Fallible

/-!
A cursor over the tokens of a text, with the steps that both grammars are made of. Behind the last
token a cursor stays on the end of input. A step that takes a token leaves fewer of them, which is
why the grammars' loops end.
-/

namespace TypedQueries

/-- The tokens not yet taken, of a source of `length` bytes. -/
structure Cursor where
  tokens : List Token
  length : Nat
  deriving DecidableEq, Repr

namespace Cursor

def ofSource (source : String) : Cursor := ⟨sourceTokens source, source.utf8ByteSize⟩

def size (c : Cursor) : Nat := c.tokens.length

/-- The token under the cursor. -/
def current (c : Cursor) : Token := c.tokens.headD (Token.endOfInput c.length)

def kind (c : Cursor) : TokenKind := c.current.kind

def advance (c : Cursor) : Cursor := { c with tokens := c.tokens.tail }

/-- The token behind the one under the cursor. -/
def next (c : Cursor) : Token := c.advance.current

theorem size_advance_le (c : Cursor) : c.advance.size ≤ c.size := by
  simp [advance, size]

theorem size_advance_lt_of_ne_nil {c : Cursor} (h : c.tokens ≠ []) : c.advance.size < c.size := by
  have := List.length_pos_iff.2 h
  simp [advance, size]
  omega

theorem current_of_eq_nil {c : Cursor} (h : c.tokens = []) :
    c.current = Token.endOfInput c.length := by
  simp [current, h]

theorem size_advance_lt {c : Cursor} (h : c.kind ≠ .endOfInput) : c.advance.size < c.size := by
  apply size_advance_lt_of_ne_nil
  intro hn
  exact h (by simp [kind, current_of_eq_nil hn, Token.endOfInput])

/-- The error that something else than the token under the cursor is asked for. -/
def unexpected (c : Cursor) (expected : String) : SyntaxError :=
  SyntaxError.unexpected expected c.current

/-- Takes a token of the given kind if there is one. -/
def eat (c : Cursor) (kind : TokenKind) : Bool × Cursor :=
  if c.kind = kind then (true, c.advance) else (false, c)

def eatKeyword (c : Cursor) (k : Keyword) : Bool × Cursor := c.eat (.keyword k)

theorem size_eat_le (c : Cursor) (kind : TokenKind) : (c.eat kind).2.size ≤ c.size := by
  unfold eat
  split
  · exact c.size_advance_le
  · exact Nat.le_refl _

/-- Takes a token of the given kind. -/
def expect (c : Cursor) (kind : TokenKind) (expected : String) : Except SyntaxError Cursor :=
  if c.kind = kind then .ok c.advance else .error (c.unexpected expected)

def expectKeyword (c : Cursor) (k : Keyword) : Except SyntaxError Cursor :=
  c.expect (.keyword k) k.text

theorem size_of_expect {c d : Cursor} {kind : TokenKind} {expected : String}
    (h : c.expect kind expected = .ok d) : d.size ≤ c.size := by
  unfold expect at h
  split at h
  · cases h
    exact c.size_advance_le
  · cases h

/-- Items of one token each, with commas between them. -/
def commaSeparated {α : Type} (item : Token → Option α) (expected : String) (c : Cursor) :
    Except SyntaxError (List α × Cursor) :=
  match item c.current with
  | none => .error (c.unexpected expected)
  | some a =>
    if _h : c.advance.kind = .comma then do
      let (as, d) ← commaSeparated item expected c.advance.advance
      return (a :: as, d)
    else .ok ([a], c.advance)
termination_by c.size
decreasing_by
  have h1 := c.size_advance_le
  have h2 := size_advance_lt (c := c.advance) (by simp [_h])
  omega

theorem size_commaSeparated {α : Type} {item : Token → Option α} {expected : String}
    {c d : Cursor} {as : List α} (h : c.commaSeparated item expected = .ok (as, d)) :
    d.size ≤ c.size := by
  fun_induction commaSeparated item expected c generalizing d as with
  | case1 => cases h
  | case2 c a ha hk ih =>
    obtain ⟨⟨as', d'⟩, h1, h⟩ := bind_eq_ok.1 h
    have := c.size_advance_le
    have := c.advance.size_advance_le
    have := ih h1
    cases h
    omega
  | case3 c a ha hk =>
    cases h
    exact c.size_advance_le

/-- The number that a digit sequence stands for. -/
def digitsValue (literal : String) : Nat :=
  literal.toList.foldl (fun n d => 10 * n + (d.toNat - '0'.toNat)) 0

/-- Takes an integer below `2 ^ 64`. -/
def expectUnsigned (c : Cursor) (expected : String) : Except SyntaxError (Nat × Cursor) :=
  if c.kind = .integer then
    let n := digitsValue c.current.literal
    if n < 0x10000000000000000 then .ok (n, c.advance)
    else .error (.ofToken c.current (.integerOutOfRange c.current.literal))
  else .error (c.unexpected expected)

end Cursor

end TypedQueries
