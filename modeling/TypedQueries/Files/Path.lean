/-!
File paths as texts with slashes. A path keeps the text it was given; its components leave out the
pieces that name nothing, and the operations cut or extend the text.
-/

namespace TypedQueries

structure Path where
  text : String
  deriving DecidableEq, Repr

/-- What a piece of a path stands for. -/
inductive Component where
  | root
  | current
  | parent
  | name (n : String)
  deriving DecidableEq, Repr

/-- The pieces between slashes; a text without a slash is one piece. -/
def cutAtSlashes : List Char → List (List Char)
  | [] => [[]]
  | c :: cs =>
    if c = '/' then [] :: cutAtSlashes cs
    else
      match cutAtSlashes cs with
      | [] => [[c]]
      | piece :: pieces => (c :: piece) :: pieces

def joinWithSlashes : List (List Char) → List Char
  | [] => []
  | [piece] => piece
  | piece :: pieces => piece ++ '/' :: joinWithSlashes pieces

/-- An empty piece and a single dot name nothing. -/
def component? (piece : List Char) : Option Component :=
  if piece = [] ∨ piece = ['.'] then none
  else if piece = ['.', '.'] then some .parent
  else some (.name (String.ofList piece))

/-- The pieces of a path, last first, without those at its end that name nothing. The dot that a
relative path starts with names the current directory. -/
def trimBack (absolute : Bool) : List (List Char) → List (List Char)
  | [] => []
  | piece :: before =>
    if piece = [] ∨ (piece = ['.'] ∧ (absolute ∨ before ≠ [])) then trimBack absolute before
    else piece :: before

theorem trimBack_length_le (absolute : Bool) (pieces : List (List Char)) :
    (trimBack absolute pieces).length ≤ pieces.length := by
  induction pieces with
  | nil => simp [trimBack]
  | cons piece before ih =>
    rw [trimBack]
    split
    · simp only [List.length_cons]; omega
    · simp

namespace Path

def isAbsolute (p : Path) : Bool := p.text.toList.head? == some '/'

/-- The pieces of the text behind the leading slash of an absolute path. -/
def pieces (p : Path) : List (List Char) :=
  cutAtSlashes (if p.isAbsolute then p.text.toList.drop 1 else p.text.toList)

def ofPieces (absolute : Bool) (pieces : List (List Char)) : Path :=
  ⟨String.ofList ((if absolute then ['/'] else []) ++ joinWithSlashes pieces)⟩

def components (p : Path) : List Component :=
  if p.isAbsolute then .root :: p.pieces.filterMap component?
  else
    match p.pieces with
    | ['.'] :: rest => .current :: rest.filterMap component?
    | pieces => pieces.filterMap component?

/-- The last component, if it is a name. -/
def fileName? (p : Path) : Option String :=
  match p.components.getLast? with
  | some (.name n) => some n
  | _ => none

/-- What follows the last dot of the file name, unless nothing stands before that dot. -/
def extension? (p : Path) : Option String := do
  let name := (← p.fileName?).toList.reverse
  match name.dropWhile (· != '.') with
  | [] => none
  | [_] => none
  | _ :: _ :: _ => some (String.ofList (name.takeWhile (· != '.')).reverse)

/-- The paths above a path whose trimmed pieces are given last first, the nearest first. -/
def above (absolute : Bool) : List (List Char) → List Path
  | [] => []
  | _ :: before =>
    ofPieces absolute (trimBack absolute before).reverse :: above absolute (trimBack absolute before)
  termination_by pieces => pieces.length
  decreasing_by
    have := trimBack_length_le absolute before
    simp only [List.length_cons]
    omega

/-- The path and all paths above it, the nearest first. -/
def ancestors (p : Path) : List Path := p :: above p.isAbsolute (trimBack p.isAbsolute p.pieces.reverse)

/-- The path without its last component; a path without components and the root have none. -/
def parent? (p : Path) : Option Path :=
  (above p.isAbsolute (trimBack p.isAbsolute p.pieces.reverse)).head?

/-- The second path as seen from the first. -/
def join (base p : Path) : Path :=
  if p.isAbsolute then p
  else if base.text.toList.getLast?.all (· == '/') then ⟨base.text ++ p.text⟩
  else ⟨base.text ++ "/" ++ p.text⟩

/-- The path with another file name; one that does not end in a name is extended. -/
def withFileName (p : Path) (name : String) : Path :=
  match p.fileName? with
  | some _ => (p.parent?.getD ⟨""⟩).join ⟨name⟩
  | none => p.join ⟨name⟩

end Path

/-- The place of a component in the order of paths: the root, then dots, then names by code
points. -/
def Component.key : Component → List Nat
  | .root => [0]
  | .current => [1]
  | .parent => [2]
  | .name n => 3 :: n.toList.map Char.toNat

/-- The order of lists by their first difference; a list comes before its extensions. -/
def lexLe {α : Type} [BEq α] (le : α → α → Bool) : List α → List α → Bool
  | [], _ => true
  | _ :: _, [] => false
  | a :: as, b :: bs => if a == b then lexLe le as bs else le a b

namespace Path

def key (p : Path) : List (List Nat) := p.components.map Component.key

/-- Paths are ordered component by component. -/
def le (p q : Path) : Bool := lexLe (lexLe Nat.ble) p.key q.key

end Path

end TypedQueries
