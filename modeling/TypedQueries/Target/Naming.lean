import TypedQueries.Text.Alphanumeric
import TypedQueries.Text.CaseMapping
import TypedQueries.Text.Lowercase
import TypedQueries.Text.Uppercase

/-!
Go identifiers and tags made from the names of a schema.
-/

namespace TypedQueries.Naming

open Text

/-- The maximal runs of letters and digits. -/
def words (cs : List Char) : List (List Char) :=
  match cs with
  | [] => []
  | c :: cs =>
    if isAlphanumeric c then
      (c :: cs.takeWhile isAlphanumeric) :: words (cs.dropWhile isAlphanumeric)
    else words cs
termination_by cs.length
decreasing_by
  · have := (List.dropWhile_sublist (l := cs) isAlphanumeric).length_le
    simp
    omega
  · simp

/-- A word with a capital in front. One without small letters is put into lower case behind it. -/
def capitalized : List Char → List Char
  | [] => []
  | c :: cs =>
    if (c :: cs).any isLowercase then upperChar c ++ cs else upperChar c ++ lowerFrom [] cs

/-- Puts an `X` in front of what cannot start an identifier. -/
def guarded : List Char → List Char
  | [] => ['X']
  | c :: cs => if c.isDigit then 'X' :: c :: cs else c :: cs

/-- The exported identifier for a name: its words, capitalized and joined. -/
def exported (name : String) : String :=
  String.ofList (guarded ((words name.toList).flatMap capitalized))

/-- Adds a character to a name in snake case: a letter or a digit in lower case, with an underscore in
front of a capital behind a small letter or a digit; else an underscore, unless one stands there
already. The flag says that a small letter or a digit was added last. -/
def addSnake : List Char × Bool → Char → List Char × Bool
  | (out, afterLower), c =>
    if isAlphanumeric c then
      ((if isUppercase c && afterLower then out ++ ['_'] else out) ++ lowerChar c,
        isLowercase c || c.isDigit)
    else (if out ≠ [] ∧ out.getLast? ≠ some '_' then out ++ ['_'] else out, false)

/-- Takes off underscores at the end. -/
def popUnderscores (out : List Char) : List Char :=
  if _h : out.getLast? = some '_' then popUnderscores out.dropLast else out
termination_by out.length
decreasing_by
  have hne : out ≠ [] := by
    rintro rfl
    cases _h
  have := List.length_pos_iff.2 hne
  rw [List.length_dropLast]
  omega

/-- A name in snake case. -/
def snake (name : String) : String :=
  String.ofList (popUnderscores (name.toList.foldl addSnake ([], false)).1)

/-- The constant for a value of an enumeration; behind the type's name a digit may stand first. -/
def member (type value : String) : String :=
  let name := (exported value).toList
  let name := match value.toList with
    | c :: _ => if c.isDigit then name.drop 1 else name
    | [] => name
  type ++ "_" ++ String.ofList name

end TypedQueries.Naming
