/-!
The lines of a configuration and the texts on them. A text is plain or quoted, a comment starts with
a hash sign.
-/

namespace TypedQueries

inductive DocumentError where
  | controlCharacter
  | tabIndentation
  | secondDocument
  | unevenIndentation
  | keyExpected
  | unclosedQuote
  | escapeSequence
  | unexpectedText
  | unexpectedLines
  deriving DecidableEq, Repr

def DocumentError.message : DocumentError → String
  | .controlCharacter => "control characters are not allowed"
  | .tabIndentation => "a tab cannot indent a line"
  | .secondDocument => "more than one document"
  | .unevenIndentation => "a line is indented unlike the keys before it"
  | .keyExpected => "expected a key followed by a colon"
  | .unclosedQuote => "a quoted text is not closed on its line"
  | .escapeSequence => "escape sequences are not supported"
  | .unexpectedText => "unexpected text in a value"
  | .unexpectedLines => "unexpected lines below a value"

namespace Document

def isGap (c : Char) : Bool := c == ' ' || c == '\t'

def isLineBreak (c : Char) : Bool :=
  c == '\n' || c == '\r' || c == '\u0085' || c == '\u2028' || c == '\u2029'

/-- Documents hold no control characters but the tab and the line breaks. -/
def isAllowed (c : Char) : Bool :=
  let n := c.toNat
  c == '\t' || isLineBreak c || (0x20 ≤ n && n ≤ 0x7e) || (0xa0 ≤ n && n ≤ 0xfffd) || 0x10000 ≤ n

/-- The lines of a text; a line break ends a line. -/
def physicalLines : List Char → List (List Char)
  | [] => [[]]
  | '\r' :: '\n' :: cs => [] :: physicalLines cs
  | c :: cs =>
    if isLineBreak c then [] :: physicalLines cs
    else
      match physicalLines cs with
      | [] => [[c]]
      | line :: lines => (c :: line) :: lines

/-- The spaces before the text of a line, and the text. -/
structure Line where
  indent : Nat
  text : List Char
  deriving DecidableEq, Repr

def Line.ofList (cs : List Char) : Line :=
  let text := cs.dropWhile (· == ' ')
  ⟨cs.length - text.length, text⟩

/-- Whether a line holds nothing but spaces and a comment. -/
def Line.isSilent (l : Line) : Bool := l.text.head?.all (· == '#')

/-- Whether a line starts a document, with nothing else on it. -/
def Line.isStartMark (l : Line) : Bool :=
  l.indent == 0 &&
    match l.text with
    | '-' :: '-' :: '-' :: rest =>
      match rest.dropWhile isGap with
      | [] => true
      | c :: _ => c == '#' && rest.head?.any isGap
    | _ => false

/-- Whether a gap or the end of the line comes first. -/
def atGap : List Char → Bool
  | [] => true
  | c :: _ => isGap c

/-- Whether an unquoted text may start here. -/
def startsPlain : List Char → Bool
  | [] => false
  | c :: cs =>
    if c == '-' || c == '?' || c == ':' then !atGap cs
    else !",[]\x7b\x7d#&*!|>'\"%@\x60".toList.contains c

/-- Whether a line starts an item of a list. -/
def Line.isItem (l : Line) : Bool :=
  match l.text with
  | '-' :: rest => atGap rest
  | _ => false

def trimRight (cs : List Char) : List Char := (cs.reverse.dropWhile isGap).reverse

/-- An unquoted text, up to a colon before a gap or a hash sign behind one, and what follows it. -/
def takePlain : List Char → List Char × List Char
  | [] => ([], [])
  | ':' :: cs => if atGap cs then ([], ':' :: cs) else ((takePlain cs).map (':' :: ·) id)
  | c :: cs =>
    if isGap c && cs.head? == some '#' then ([], c :: cs) else (takePlain cs).map (c :: ·) id

/-- A text in single quotes behind the first of them, and what follows it; two quotes stand for
one. -/
def takeSingle : List Char → Except DocumentError (List Char × List Char)
  | [] => .error .unclosedQuote
  | '\'' :: '\'' :: cs => (takeSingle cs).map (Prod.map ('\'' :: ·) id)
  | c :: cs =>
    if c = '\'' then .ok ([], cs) else (takeSingle cs).map (Prod.map (c :: ·) id)

/-- A text in double quotes behind the first of them, and what follows it. -/
def takeDouble : List Char → Except DocumentError (List Char × List Char)
  | [] => .error .unclosedQuote
  | c :: cs =>
    if c = '"' then .ok ([], cs)
    else if c = '\\' then .error .escapeSequence
    else (takeDouble cs).map (Prod.map (c :: ·) id)

/-- A quoted or unquoted text and what follows it behind gaps. -/
def takeText (cs : List Char) : Except DocumentError (List Char × List Char) := do
  let (text, rest) ←
    match cs with
    | '\'' :: cs => takeSingle cs
    | '"' :: cs => takeDouble cs
    | cs =>
      if startsPlain cs then
        let (text, rest) := takePlain cs
        pure (trimRight text, rest)
      else throw .unexpectedText
  return (text, rest.dropWhile isGap)

/-- Whether a line starts with a key. -/
def Line.isKeyed (l : Line) : Bool :=
  match takeText l.text with
  | .ok (_, ':' :: rest) => atGap rest
  | _ => false

/-- The lines of a document, without the mark that may start it. -/
def lines (source : String) : Except DocumentError (List Line) := do
  let cs := match source.toList with
    | '\ufeff' :: cs => ' ' :: cs
    | cs => cs
  if !cs.all isAllowed then throw .controlCharacter
  let lines := ((physicalLines cs).map Line.ofList).dropWhile Line.isSilent
  let lines := match lines with
    | [] => []
    | line :: rest => if line.isStartMark then rest else line :: rest
  if lines.any Line.isStartMark then throw .secondDocument
  return lines

end Document

end TypedQueries
