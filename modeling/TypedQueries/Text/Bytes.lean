/-!
Byte offsets in a text: its length in bytes of UTF-8 and the part between two offsets.
-/

namespace TypedQueries.Text

def byteLength : List Char → Nat
  | [] => 0
  | c :: cs => c.utf8Size + byteLength cs

@[simp]
theorem byteLength_nil : byteLength [] = 0 := rfl

@[simp]
theorem byteLength_cons (c : Char) (cs : List Char) :
    byteLength (c :: cs) = c.utf8Size + byteLength cs := rfl

@[simp]
theorem byteLength_append (cs ds : List Char) :
    byteLength (cs ++ ds) = byteLength cs + byteLength ds := by
  induction cs with
  | nil => simp
  | cons c cs ih => simp [ih, Nat.add_assoc]

/-- Cuts a text at a byte offset. There is no cut past the end or inside a character. -/
def splitAtByte? (n : Nat) : List Char → Option (List Char × List Char)
  | [] => if n = 0 then some ([], []) else none
  | c :: cs =>
    if n = 0 then some ([], c :: cs)
    else if c.utf8Size ≤ n then
      (splitAtByte? (n - c.utf8Size) cs).map fun (before, after) => (c :: before, after)
    else none

theorem splitAtByte?_append (cs ds : List Char) :
    splitAtByte? (byteLength cs) (cs ++ ds) = some (cs, ds) := by
  induction cs with
  | nil => cases ds <;> simp [splitAtByte?]
  | cons c cs ih =>
    have hc : c.utf8Size ≠ 0 := Nat.ne_of_gt c.utf8Size_pos
    simp [splitAtByte?, hc, ih]

/-- The part of a text between two byte offsets. -/
def slice? (start stop : Nat) (cs : List Char) : Option (List Char) := do
  if stop < start then none
  let (_, after) ← splitAtByte? start cs
  let (part, _) ← splitAtByte? (stop - start) after
  return part

end TypedQueries.Text
