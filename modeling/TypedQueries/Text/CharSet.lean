/-!
Sets of characters written as runs of code points, the form in which the tables of this folder are
kept.
-/

namespace TypedQueries.Text

/-- The code points `first`, `first + step`, `first + 2 * step`, … up to `last`. -/
structure Run where
  first : Nat
  last : Nat
  step : Nat
  deriving DecidableEq, Repr

def Run.contains (r : Run) (n : Nat) : Bool :=
  decide (r.first ≤ n) && decide (n ≤ r.last) && (n - r.first) % r.step == 0

/-- A set of characters: the union of its runs. -/
abbrev CharSet := List Run

def CharSet.contains (s : CharSet) (c : Char) : Bool :=
  s.any fun r => r.contains c.toNat

theorem CharSet.contains_iff (s : CharSet) (c : Char) :
    s.contains c = true ↔ ∃ r ∈ s, r.contains c.toNat = true := by
  simp [CharSet.contains]

/-- The characters of a run, each with a form `offset` code points further on. -/
structure Shift where
  run : Run
  offset : Int
  deriving DecidableEq, Repr

/-- The seven-bit characters, for which every class and case form has a direct rule. -/
def isAscii (c : Char) : Bool := decide (c.toNat < 128)

end TypedQueries.Text
