import TypedQueries.Lexical.Keyword
import TypedQueries.Text.Bytes

/-!
Tokens: a kind, a text and the place in the source, a range of bytes by which errors say where they
arose.
-/

namespace TypedQueries

/-- The bytes from `start` up to, and without, `stop`. -/
structure Span where
  start : Nat
  stop : Nat
  deriving DecidableEq, Repr

namespace Span

/-- The empty range at `offset`. -/
def point (offset : Nat) : Span := ⟨offset, offset⟩

/-- The text that a range covers; empty for a range that is no part of `source`. -/
def slice (s : Span) (source : String) : String :=
  match Text.slice? s.start s.stop source.toList with
  | some part => String.ofList part
  | none => ""

def render (s : Span) : String := s!"{s.start}..{s.stop}"

end Span

inductive TokenKind where
  /-- A character that starts no token, or a quote that is never closed. -/
  | illegal
  | endOfInput
  | ident
  | integer
  /-- A text in single or double quotes. -/
  | string
  | keyword (k : Keyword)
  | eq | notEq | lt | gt | ltEq | gtEq
  | comma | semicolon | leftParen | rightParen | star | dollar
  deriving DecidableEq, Repr

/-- How error messages name a kind of token. -/
def TokenKind.name : TokenKind → String
  | .illegal => "illegal character"
  | .endOfInput => "end of input"
  | .ident => "identifier"
  | .integer => "integer"
  | .string => "quoted string"
  | .keyword k => k.text
  | .eq => "'='"
  | .notEq => "'!='"
  | .lt => "'<'"
  | .gt => "'>'"
  | .ltEq => "'<='"
  | .gtEq => "'>='"
  | .comma => "','"
  | .semicolon => "';'"
  | .leftParen => "'('"
  | .rightParen => "')'"
  | .star => "'*'"
  | .dollar => "'$'"

/-- `literal` is the word in capitals, the text without its quotes, or else the source text itself. -/
structure Token where
  kind : TokenKind
  literal : String
  span : Span
  deriving DecidableEq, Repr

namespace Token

/-- The token that stands for the end of a source of `length` bytes. -/
def endOfInput (length : Nat) : Token := ⟨.endOfInput, "", Span.point length⟩

/-- How error messages show a token. -/
def render (t : Token) : String :=
  match t.kind with
  | .ident | .integer | .illegal | .string => s!"{t.kind.name} '{t.literal}'"
  | _ => t.kind.name

/-- Words that a query may use as a name: identifiers and the keywords of the schema grammar. -/
def isColumnWord (t : Token) : Bool :=
  match t.kind with
  | .ident => true
  | .keyword k => !k.isQueryReserved
  | _ => false

end Token

end TypedQueries
