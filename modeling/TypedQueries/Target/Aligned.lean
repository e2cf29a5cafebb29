/-!
Rows of cells in aligned columns. Each row is a line that starts with a tab; every cell but the last
of its row is filled up to the width of its column and followed by a blank. The widths are collected
from all rows before the first is written, so that a column is never without one.
-/

namespace TypedQueries.Aligned

/-- The widths of the columns with room for a cell. A column without a width gets one at the end. -/
def widen (widths : List Nat) (column : Nat) (cell : String) : List Nat :=
  if column < widths.length then widths.modify column (max cell.length)
  else widths ++ [cell.length]

/-- The widths with room for the cells of a row from a column on. The last cell needs none. -/
def widenRow (widths : List Nat) (column : Nat) : List String → List Nat
  | [] => widths
  | [_] => widths
  | cell :: next :: cells => widenRow (widen widths column cell) (column + 1) (next :: cells)

def columnWidths (rows : List (List String)) : List Nat :=
  rows.foldl (fun widths row => widenRow widths 0 row) []

def pad (width : Nat) (cell : String) : String :=
  cell ++ String.ofList (List.replicate (width - cell.length) ' ')

/-- The cells of a row from a column on, unless one of them is in a column without a width. -/
def renderCells? (widths : List Nat) (column : Nat) : List String → Option String
  | [] => some ""
  | [cell] => some cell
  | cell :: next :: cells => do
    let width ← widths[column]?
    let more ← renderCells? widths (column + 1) (next :: cells)
    return pad width cell ++ " " ++ more

def renderRows? (widths : List Nat) : List (List String) → Option String
  | [] => some ""
  | row :: rows => do
    let cells ← renderCells? widths 0 row
    let more ← renderRows? widths rows
    return "\t" ++ cells ++ "\n" ++ more

/-- Every cell of a row from a column on has room in its column, but for the last. -/
def Fits (widths : List Nat) (column : Nat) : List String → Prop
  | [] => True
  | [_] => True
  | cell :: next :: cells =>
    (∃ width, widths[column]? = some width ∧ cell.length ≤ width) ∧
      Fits widths (column + 1) (next :: cells)

/-- The second widths leave at least the room of the first. -/
def Wider (widths more : List Nat) : Prop :=
  ∀ (column width : Nat), widths[column]? = some width →
    ∃ width', more[column]? = some width' ∧ width ≤ width'

theorem Wider.refl (widths : List Nat) : Wider widths widths :=
  fun _ width h => ⟨width, h, Nat.le_refl width⟩

theorem Wider.trans {widths more most : List Nat} (h : Wider widths more) (h' : Wider more most) :
    Wider widths most := by
  intro column width hwidth
  obtain ⟨width', hwidth', hle⟩ := h column width hwidth
  obtain ⟨width'', hwidth'', hle'⟩ := h' column width' hwidth'
  exact ⟨width'', hwidth'', Nat.le_trans hle hle'⟩

theorem wider_widen (widths : List Nat) (column : Nat) (cell : String) :
    Wider widths (widen widths column cell) := by
  intro other width hwidth
  unfold widen
  split
  · by_cases heq : column = other
    · exact ⟨max cell.length width, by simp [heq, hwidth], Nat.le_max_right _ _⟩
    · exact ⟨width, by simp [heq, hwidth], Nat.le_refl width⟩
  · obtain ⟨hother, -⟩ := List.getElem?_eq_some_iff.1 hwidth
    exact ⟨width, by rw [List.getElem?_append_left hother, hwidth], Nat.le_refl width⟩

/-- A cell has room behind the columns in front of it. -/
theorem exists_width_widen {widths : List Nat} {column : Nat} (hcolumn : column ≤ widths.length)
    (cell : String) :
    ∃ width, (widen widths column cell)[column]? = some width ∧ cell.length ≤ width := by
  unfold widen
  split
  · rename_i hlt
    exact ⟨max cell.length widths[column], by simp [hlt], Nat.le_max_left _ _⟩
  · rename_i hge
    obtain rfl : column = widths.length := by omega
    exact ⟨cell.length, by simp, Nat.le_refl _⟩

theorem wider_widenRow (widths : List Nat) (column : Nat) (cells : List String) :
    Wider widths (widenRow widths column cells) := by
  fun_induction widenRow widths column cells with
  | case1 => exact .refl _
  | case2 => exact .refl _
  | case3 widths column cell next cells ih => exact (wider_widen widths column cell).trans ih

theorem Fits.of_wider {widths more : List Nat} {column : Nat} {cells : List String}
    (h : Fits widths column cells) (hwider : Wider widths more) : Fits more column cells := by
  fun_induction Fits widths column cells with
  | case1 => trivial
  | case2 => trivial
  | case3 column cell next cells ih =>
    obtain ⟨⟨width, hwidth, hcell⟩, hcells⟩ := h
    obtain ⟨width', hwidth', hle⟩ := hwider column width hwidth
    exact ⟨⟨width', hwidth', Nat.le_trans hcell hle⟩, ih hcells⟩

theorem fits_widenRow {widths : List Nat} {column : Nat} (hcolumn : column ≤ widths.length)
    (cells : List String) : Fits (widenRow widths column cells) column cells := by
  fun_induction widenRow widths column cells with
  | case1 => trivial
  | case2 => trivial
  | case3 widths column cell next cells ih =>
    obtain ⟨width, hwidth, hcell⟩ := exists_width_widen hcolumn cell
    obtain ⟨hlt, -⟩ := List.getElem?_eq_some_iff.1 hwidth
    obtain ⟨width', hwidth', hle⟩ := wider_widenRow _ (column + 1) (next :: cells) column width hwidth
    exact ⟨⟨width', hwidth', Nat.le_trans hcell hle⟩, ih hlt⟩

/-- Rows widen the columns, and each has room in what they are widened to. -/
theorem fits_foldl_widenRow (rows : List (List String)) (widths : List Nat) :
    Wider widths (rows.foldl (fun widths row => widenRow widths 0 row) widths) ∧
      ∀ row ∈ rows, Fits (rows.foldl (fun widths row => widenRow widths 0 row) widths) 0 row := by
  induction rows generalizing widths with
  | nil => exact ⟨.refl widths, by simp⟩
  | cons row rows ih =>
    obtain ⟨hwider, hrows⟩ := ih (widenRow widths 0 row)
    refine ⟨(wider_widenRow widths 0 row).trans hwider, fun other hother => ?_⟩
    rcases List.mem_cons.1 hother with rfl | hother
    · exact (fits_widenRow (Nat.zero_le _) other).of_wider hwider
    · exact hrows other hother

theorem fits_columnWidths {rows : List (List String)} {row : List String} (h : row ∈ rows) :
    Fits (columnWidths rows) 0 row :=
  (fits_foldl_widenRow rows []).2 row h

theorem isSome_renderCells? {widths : List Nat} {column : Nat} {cells : List String}
    (h : Fits widths column cells) : (renderCells? widths column cells).isSome := by
  fun_induction Fits widths column cells with
  | case1 => rfl
  | case2 => rfl
  | case3 column cell next cells ih =>
    obtain ⟨⟨width, hwidth, -⟩, hcells⟩ := h
    obtain ⟨more, hmore⟩ := Option.isSome_iff_exists.1 (ih hcells)
    simp [renderCells?, hwidth, hmore]

theorem isSome_renderRows? {widths : List Nat} {rows : List (List String)}
    (h : ∀ row ∈ rows, Fits widths 0 row) : (renderRows? widths rows).isSome := by
  induction rows with
  | nil => rfl
  | cons row rows ih =>
    rw [List.forall_mem_cons] at h
    obtain ⟨cells, hcells⟩ := Option.isSome_iff_exists.1 (isSome_renderCells? h.1)
    obtain ⟨more, hmore⟩ := Option.isSome_iff_exists.1 (ih h.2)
    simp [renderRows?, hcells, hmore]

def render (rows : List (List String)) : String :=
  (renderRows? (columnWidths rows) rows).get (isSome_renderRows? fun _ h => fits_columnWidths h)

end TypedQueries.Aligned
