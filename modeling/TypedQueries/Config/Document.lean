import TypedQueries.Config.Line

/-!
The configuration language: mappings of keys to texts or to deeper mappings, marked by indentation.
An unquoted text runs on over the deeper lines below it.
-/

namespace TypedQueries.Document

/-- What a key stands for. Lists, and mappings in brackets, are told apart but not read. -/
inductive Value where
  | text (t : String)
  | mapping (entries : List (String × Value))
  | list
  | bracketed
  deriving Repr

/-- A key with what follows it up to the next key, or an item of a list with all that is deeper. -/
inductive Statement where
  | entry (indent : Nat) (key : String) (value? : Option Value)
  | item (indent : Nat)
  deriving Repr

/-- What joins two lines of a text that have some empty ones between them. -/
def joint (empty : Nat) : List Char :=
  if empty = 0 then [' '] else List.replicate empty '\n'

/-- What an unquoted text of a key at an indentation goes on with, behind some empty lines, and how
many lines that takes. A tab may stand only where the line is deeper than the key already. -/
def runOn (indent empty : Nat) : List Line → Except DocumentError (List Char × Nat)
  | [] => .ok ([], 0)
  | line :: lines => do
    if line.text.head? == some '\t' && line.indent ≤ indent then throw .tabIndentation
    match line.text.dropWhile isGap with
    | [] =>
      let (more, used) ← runOn indent (empty + 1) lines
      return (more, used + 1)
    | '#' :: _ => return ([], 1)
    | cs =>
      if line.indent ≤ indent then return ([], 0)
      let (text, rest) := takePlain cs
      let text := joint empty ++ trimRight text
      match rest.dropWhile isGap with
      | [] =>
        let (more, used) ← runOn indent 0 lines
        return (text ++ more, used + 1)
      | '#' :: _ => return (text, 1)
      | _ => throw .unexpectedText

/-- The value that starts a text and may run on over the lines below it, of which it takes some. -/
def inlineValue (indent : Nat) (cs : List Char) (below : List Line) :
    Except DocumentError (Value × Nat) := do
  if cs.head? == some '[' || cs.head? == some '\x7b' then return (.bracketed, 0)
  match ← takeText cs with
  | (text, []) =>
    let (more, used) ← if startsPlain cs then runOn indent 0 below else pure ([], 0)
    return (.text (String.ofList (text ++ more)), used)
  | (text, '#' :: _) => return (.text (String.ofList text), 0)
  | _ => throw .unexpectedText

/-- The value of a key at an indentation, from behind its colon, and how many of the lines below it
takes. A value that is no mapping may start on a deeper line. -/
def valueBehind (indent : Nat) (cs : List Char) (below : List Line) :
    Except DocumentError (Option Value × Nat) := do
  let cs := cs.dropWhile isGap
  if !cs.head?.all (· == '#') then
    let (value, used) ← inlineValue indent cs below
    return (some value, used)
  let silent := (below.takeWhile Line.isSilent).length
  match below.drop silent with
  | [] => return (none, 0)
  | line :: lines =>
    if line.indent ≤ indent || line.isItem || line.isKeyed then return (none, 0)
    let (value, used) ← inlineValue indent line.text lines
    return (some value, silent + 1 + used)

/-- The statement that starts on a line, and how many of the lines below it takes. -/
def statement (line : Line) (below : List Line) : Except DocumentError (Statement × Nat) := do
  if line.isItem then
    return (.item line.indent, (below.takeWhile fun l => l.isSilent || line.indent < l.indent).length)
  match ← takeText line.text with
  | (key, ':' :: rest) =>
    if !atGap rest then throw .keyExpected
    let (value?, used) ← valueBehind line.indent rest below
    return (.entry line.indent (String.ofList key) value?, used)
  | _ => throw .keyExpected

def statements : List Line → Except DocumentError (List Statement)
  | [] => .ok []
  | line :: lines =>
    if line.isSilent then statements lines
    else if line.text.head? == some '\t' then .error .tabIndentation
    else do
      let (first, used) ← statement line lines
      let others ← statements (lines.drop used)
      return first :: others
  termination_by lines => lines.length
  decreasing_by all_goals simp only [List.length_cons, List.length_drop]; omega

/-- Whether a statement belongs to the value of a key at an indentation: it is deeper, or a list
item. -/
def Statement.isBelow (indent : Nat) : Statement → Bool
  | entry i _ _ => indent < i
  | item i => indent ≤ i

/-- The entries of a mapping whose keys stand at one indentation. -/
def entriesAt (indent : Nat) : List Statement → Except DocumentError (List (String × Value))
  | [] => .ok []
  | .item _ :: _ => .error .keyExpected
  | .entry i key value? :: others =>
    if i ≠ indent then .error .unevenIndentation
    else do
      let value ←
        match value?, others.takeWhile (·.isBelow indent) with
        | some value, [] => pure value
        | some _, _ :: _ => throw .unexpectedLines
        | none, [] => pure (.text "")
        | none, .item _ :: _ => pure .list
        | none, .entry j _ _ :: _ => do
          let entries ← entriesAt j (others.takeWhile (·.isBelow indent))
          pure (.mapping entries)
      let more ← entriesAt indent (others.dropWhile (·.isBelow indent))
      return (key, value) :: more
  termination_by statements => statements.length
  decreasing_by
    all_goals
      have := (List.takeWhile_sublist (l := others) (·.isBelow indent)).length_le
      have := (List.dropWhile_sublist (l := others) (·.isBelow indent)).length_le
      rw [List.length_cons]
      omega

/-- The entries of the mapping that a document holds. -/
def entries (source : String) : Except DocumentError (List (String × Value)) := do
  match ← statements (← lines source) with
  | [] => return []
  | .item _ :: _ => throw .keyExpected
  | .entry indent key value? :: others => entriesAt indent (.entry indent key value? :: others)

end TypedQueries.Document
