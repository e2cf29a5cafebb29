import TypedQueries.Text.Extending
import TypedQueries.Text.Unprintable

/-!
Texts between quotes with everything escaped that would not show as a character of its own.
-/

namespace TypedQueries.Text

/-- Letters that show nothing: they fill the place of a missing one. -/
def isFiller (c : Char) : Bool :=
  c == '\u115f' || c == '\u1160' || c == '\u3164' || c == '\uffa0'

/-- Marks that extend the character before them and yet have a shape of their own. -/
def standsAlone (c : Char) : Bool := c == '\uff9e' || c == '\uff9f'

/-- Whether a character shows as one of its own. -/
def isShown (c : Char) : Bool :=
  !isFiller c && !isUnprintable c && (!isExtending c || standsAlone c)

/-- A character that does not show as one of its own is written by its number. -/
def escapeChar (c : Char) : List Char :=
  if c = '\x00' then ['\\', '0']
  else if c = '\t' then ['\\', 't']
  else if c = '\n' then ['\\', 'n']
  else if c = '\r' then ['\\', 'r']
  else if c = '"' then ['\\', '"']
  else if c = '\\' then ['\\', '\\']
  else if isShown c then [c]
  else ['\\', 'u', '\x7b'] ++ Nat.toDigits 16 c.toNat ++ ['\x7d']

def escaped (text : String) : String :=
  String.ofList ('"' :: text.toList.flatMap escapeChar ++ ['"'])

end TypedQueries.Text
