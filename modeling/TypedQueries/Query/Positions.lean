import TypedQueries.Query.Statement

/-!
Dense placeholder positions: the positions that a statement uses, renumbered from 1 on without a
gap and in the same order. The positions are sorted, repetitions are left out, and each placeholder
gets the number of the place at which a binary search finds its position.
-/

namespace TypedQueries

/-- Puts a number in front of the first one that is not smaller. -/
def insertAscending (p : Nat) : List Nat → List Nat
  | [] => [p]
  | q :: qs => if p ≤ q then p :: q :: qs else q :: insertAscending p qs

/-- Numbers in ascending order. -/
def sortAscending (ps : List Nat) : List Nat := ps.foldr insertAscending []

/-- Leaves out every number that stands right in front of an equal one. -/
def dropRepeats : List Nat → List Nat
  | [] => []
  | [p] => [p]
  | p :: q :: qs => if p = q then dropRepeats (q :: qs) else p :: dropRepeats (q :: qs)

/-- Halves the window of `size` places from `base` on until one place is left, which is the one of
`p` if `p` stands in the window. -/
def narrow (ps : List Nat) (p base size : Nat) : Nat :=
  if 1 < size then
    let middle := base + size / 2
    if p < ps.getD middle 0 then narrow ps p base (size - size / 2)
    else narrow ps p middle (size - size / 2)
  else base
termination_by size
decreasing_by all_goals omega

/-- The place of `p` in an ascending list, if it is there. -/
def binarySearch? (ps : List Nat) (p : Nat) : Option Nat :=
  let place := narrow ps p 0 ps.length
  if ps[place]? = some p then some place else none

/-- The distinct positions of placeholders in ascending order; 0 is none. -/
def Statement.positions (s : Statement) : List Nat :=
  dropRepeats (sortAscending ((s.binds.map Bind.position).filter (0 < ·)))

/-- The place of `position` among `used`, counted from 1. A position that is not used stays. -/
def densePosition (used : List Nat) (position : Nat) : Nat :=
  match binarySearch? used position with
  | some place => place + 1
  | none => position

def Bind.renumber (used : List Nat) (b : Bind) : Bind :=
  match b.value with
  | .param position => { b with value := .param (densePosition used position) }
  | .literal _ => b

def Statement.withDensePositions (s : Statement) : Statement :=
  s.mapBinds (Bind.renumber s.positions)

theorem Bind.column_renumber (used : List Nat) (b : Bind) : (b.renumber used).column = b.column := by
  unfold renumber
  split <;> rfl

end TypedQueries
