import TypedQueries.CompileError
import TypedQueries.Text.CaseMapping

/-!
The lines of a text, and the query blocks of a query file. A line ends at a line feed, together with
one carriage return in front of it; the last line need not end. A block starts at a tag line such as

    -- name: GetUser :one

and holds the lines up to the next tag line. Lines in front of the first tag belong to no block.
-/

namespace TypedQueries

namespace Text

def isLineFeed (c : Char) : Bool := c == '\n'

/-- Drops a carriage return at the end. -/
def dropReturn (line : List Char) : List Char :=
  if line.getLast? = some '\r' then line.dropLast else line

def lines (cs : List Char) : List (List Char) :=
  match _h : cs.dropWhile (fun c => !isLineFeed c) with
  | [] => if cs.isEmpty then [] else [cs]
  | _ :: rest => dropReturn (cs.takeWhile fun c => !isLineFeed c) :: lines rest
termination_by cs.length
decreasing_by
  have := (List.dropWhile_sublist (l := cs) (fun c => !isLineFeed c)).length_le
  simp [_h] at this
  omega

end Text

/-- What a query gives back: one row, a list of rows, or nothing. -/
inductive QueryKind where
  | one | many | exec
  deriving DecidableEq, Repr

namespace QueryKind

def text : QueryKind → String
  | one => "one"
  | many => "many"
  | exec => "exec"

def ofText (text : String) : Except CompileError QueryKind :=
  match text with
  | "one" => .ok one
  | "many" => .ok many
  | "exec" => .ok exec
  | other => .error (.unsupportedKind other)

theorem ofText_text (k : QueryKind) : ofText k.text = .ok k := by
  cases k <;> rfl

end QueryKind

/-- `kind` is the word of the tag line, whatever it is, and `sql` the lines, each with its line feed. -/
structure QueryBlock where
  name : String
  kind : String
  sql : String
  file : String
  deriving DecidableEq, Repr

namespace QueryBlock

def isTagBlank (c : Char) : Bool :=
  c == ' ' || c == '\t' || c == '\n' || c == '\r' || c == '\x0c'

def isTagWord (c : Char) : Bool := c.isAlphanum || c == '_'

/-- The name and the kind in a tag line: two dashes, `name:`, the name, a colon and the kind, with
blanks allowed in front of `name:`, the name and the colon. -/
def tag? (line : List Char) : Option (List Char × List Char) :=
  match line with
  | '-' :: '-' :: rest =>
    match rest.dropWhile isTagBlank with
    | 'n' :: 'a' :: 'm' :: 'e' :: ':' :: rest =>
      let rest := rest.dropWhile isTagBlank
      let name := rest.takeWhile isTagWord
      match (rest.dropWhile isTagWord).dropWhile isTagBlank with
      | ':' :: kind =>
        if !name.isEmpty && !kind.isEmpty && kind.all isTagWord then some (name, kind) else none
      | _ => none
    | _ => none
  | _ => none

/-- The text with its first character in upper case. -/
def capitalize : List Char → List Char
  | [] => []
  | c :: cs => Text.upperChar c ++ cs

/-- The lines of a block as one text. -/
def joinLines (lines : List (List Char)) : List Char := lines.flatMap (· ++ ['\n'])

/-- The blocks that the tag lines among `lines` start. -/
def ofLines (file : String) : List (List Char) → List QueryBlock
  | [] => []
  | line :: lines =>
    match tag? line with
    | some (name, kind) =>
      let body := lines.takeWhile fun l => (tag? l).isNone
      ⟨String.ofList (capitalize name), String.ofList kind, String.ofList (joinLines body), file⟩ ::
        ofLines file lines
    | none => ofLines file lines

/-- The blocks of a query file, in order. -/
def ofText (file text : String) : List QueryBlock := ofLines file (Text.lines text.toList)

end QueryBlock

end TypedQueries
