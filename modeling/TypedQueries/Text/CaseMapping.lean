import TypedQueries.Text.CaseIgnorable
import TypedQueries.Text.Cased
import TypedQueries.Text.LowerForm
import TypedQueries.Text.UpperForm

/-!
Case mappings. A character may have a form of several characters, and a capital sigma at the end of
a word becomes the final small sigma when a whole text is put into lower case.
-/

namespace TypedQueries.Text

/-- The form that the two tables give to `c`; a character in neither is its own form. -/
def caseForm (shifts : List Shift) (expansions : List (Nat × List Nat)) (c : Char) : List Char :=
  match expansions.lookup c.toNat with
  | some form => form.map Char.ofNat
  | none =>
    match shifts.find? fun s => s.run.contains c.toNat with
    | some s => [Char.ofNat (c.toNat + s.offset).toNat]
    | none => [c]

def upperChar (c : Char) : List Char :=
  if isAscii c then [c.toUpper] else caseForm upperShifts upperExpansions c

def lowerChar (c : Char) : List Char :=
  if isAscii c then [c.toLower] else caseForm lowerShifts lowerExpansions c

theorem upperChar_of_isAscii {c : Char} (h : isAscii c = true) : upperChar c = [c.toUpper] := by
  simp [upperChar, h]

theorem lowerChar_of_isAscii {c : Char} (h : isAscii c = true) : lowerChar c = [c.toLower] := by
  simp [lowerChar, h]

/-- Whether the first character that is not case-ignorable is a cased one. -/
def startsCased (cs : List Char) : Bool :=
  match cs.dropWhile isCaseIgnorable with
  | [] => false
  | c :: _ => isCased c

/-- The lower-case form of capital sigma between `before`, nearest character first, and `after`. -/
def lowerSigma (before after : List Char) : Char :=
  if startsCased before && !startsCased after then 'ς' else 'σ'

/-- Lower case of the second list, where `before` holds what stands in front of it, nearest first. -/
def lowerFrom (before : List Char) : List Char → List Char
  | [] => []
  | c :: cs =>
    (if c = 'Σ' then [lowerSigma before cs] else lowerChar c) ++ lowerFrom (c :: before) cs

def upper (s : String) : String := String.ofList (s.toList.flatMap upperChar)

def lower (s : String) : String := String.ofList (lowerFrom [] s.toList)

/-- Equality of texts up to the case of the letters `a` to `z`. -/
def equalIgnoringCase (s t : String) : Bool :=
  s.toList.map Char.toLower == t.toList.map Char.toLower

end TypedQueries.Text
