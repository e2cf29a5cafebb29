import Mathlib.Data.List.Forall2
import TypedQueries.Target.Aligned

/-!
Lines of aligned rows. A line has the cells of its row in order, with blanks behind each but the
last. All rows have room in the widths collected from them, so that no width is missing and a column
starts where the widths in front of it end, in every line that reaches it.
-/

namespace TypedQueries.Aligned

/-- A cell in a line, and how many blanks stand behind it. -/
structure Placed where
  cell : String
  blanks : Nat

def Placed.text (p : Placed) : String := p.cell ++ String.ofList (List.replicate p.blanks ' ')

/-- What stands in a line in front of the cell in a column. -/
def front (line : List Placed) (column : Nat) : String :=
  "\t" ++ String.join ((line.take column).map Placed.text)

def lineText (line : List Placed) : String := "\t" ++ String.join (line.map Placed.text) ++ "\n"

/-- The cells of a line are those of a row, in order. Blanks stand behind each but the last. -/
structure Shows (line : List Placed) (row : List String) : Prop where
  cells : line.map Placed.cell = row
  blanks : ∀ p ∈ line.dropLast, 0 < p.blanks
  last : ∀ p ∈ line.getLast?, p.blanks = 0

/-- The cells of a row from a column on, filled up to the widths. -/
def place (widths : List Nat) (column : Nat) : List String → List Placed
  | [] => []
  | [cell] => [⟨cell, 0⟩]
  | cell :: next :: cells =>
    ⟨cell, widths.getD column 0 - cell.length + 1⟩ :: place widths (column + 1) (next :: cells)

theorem map_cell_place (widths : List Nat) (column : Nat) (cells : List String) :
    (place widths column cells).map Placed.cell = cells := by
  fun_induction place widths column cells with
  | case1 => rfl
  | case2 => rfl
  | case3 column cell next cells ih => rw [List.map_cons, ih]

theorem length_place (widths : List Nat) (column : Nat) (cells : List String) :
    (place widths column cells).length = cells.length := by
  rw [← List.length_map Placed.cell, map_cell_place]

theorem shows_place (widths : List Nat) (column : Nat) (cells : List String) :
    Shows (place widths column cells) cells := by
  fun_induction place widths column cells with
  | case1 => exact ⟨rfl, by simp, by simp⟩
  | case2 => exact ⟨rfl, by simp, by simp⟩
  | case3 column cell next cells ih =>
    obtain ⟨hcells, hblanks, hlast⟩ := ih
    have hne : place widths (column + 1) (next :: cells) ≠ [] := by
      simp [← List.length_pos_iff, length_place]
    refine ⟨by rw [List.map_cons, hcells], ?_, ?_⟩
    · rw [List.dropLast_cons_of_ne_nil hne]
      exact List.forall_mem_cons.2 ⟨Nat.succ_pos _, hblanks⟩
    · rwa [List.getLast?_cons_of_ne_nil hne]

theorem renderCells?_of_fits {widths : List Nat} {column : Nat} {cells : List String}
    (h : Fits widths column cells) :
    renderCells? widths column cells =
      some (String.join ((place widths column cells).map Placed.text)) := by
  fun_induction place widths column cells with
  | case1 => rfl
  | case2 => simp [renderCells?, Placed.text]
  | case3 column cell next cells ih =>
    obtain ⟨⟨width, hwidth, -⟩, hcells⟩ := h
    have hpad : pad width cell ++ " " =
        Placed.text ⟨cell, widths.getD column 0 - cell.length + 1⟩ := by
      simp [pad, Placed.text, hwidth, ← String.toList_inj, List.replicate_succ']
    rw [renderCells?, hwidth, ih hcells, List.map_cons, String.join_cons, ← hpad]
    rfl

theorem renderRows?_of_fits {widths : List Nat} {rows : List (List String)}
    (h : ∀ row ∈ rows, Fits widths 0 row) :
    renderRows? widths rows =
      some (String.join ((rows.map (place widths 0)).map lineText)) := by
  induction rows with
  | nil => rfl
  | cons row rows ih =>
    rw [List.forall_mem_cons] at h
    rw [renderRows?, renderCells?_of_fits h.1, ih h.2, List.map_cons, List.map_cons,
      String.join_cons]
    rfl

theorem renderRows?_columnWidths (rows : List (List String)) :
    renderRows? (columnWidths rows) rows = some (render rows) :=
  (Option.some_get _).symm

theorem render_eq_join (rows : List (List String)) :
    render rows = String.join ((rows.map (place (columnWidths rows) 0)).map lineText) := by
  have hrows := renderRows?_of_fits fun row (h : row ∈ rows) => fits_columnWidths h
  exact Option.some.inj ((renderRows?_columnWidths rows).symm.trans hrows)

/-- How many characters stand between the tab and a column: the widths in front of it, with one blank
behind each. -/
def offset : List Nat → Nat → Nat
  | [], _ => 0
  | _ :: _, 0 => 0
  | width :: widths, column + 1 => width + 1 + offset widths column

theorem length_join_take_place {widths : List Nat} {column : Nat} {cells : List String}
    (h : Fits widths column cells) {j : Nat} (hj : j < cells.length) :
    (String.join (((place widths column cells).take j).map Placed.text)).length =
      offset (widths.drop column) j := by
  fun_induction place widths column cells generalizing j with
  | case1 => cases hj
  | case2 =>
    obtain rfl : j = 0 := by simpa using hj
    cases List.drop _ widths <;> rfl
  | case3 column cell next cells ih =>
    obtain ⟨⟨width, hwidth, hcell⟩, hcells⟩ := h
    obtain ⟨hcolumn, hget⟩ := List.getElem?_eq_some_iff.1 hwidth
    rw [List.drop_eq_getElem_cons hcolumn, hget]
    cases j with
    | zero => rfl
    | succ j =>
      have hrest := ih hcells (Nat.lt_of_succ_lt_succ hj)
      have hfirst : (Placed.text ⟨cell, widths.getD column 0 - cell.length + 1⟩).length =
          width + 1 := by
        simp only [Placed.text, String.length_append, String.length_ofList, List.length_replicate,
          List.getD_eq_getElem?_getD, hwidth, Option.getD_some]
        omega
      rw [offset, List.take_succ_cons, List.map_cons, String.join_cons, String.length_append,
        hfirst, hrest]

theorem Fits.lt_length {widths : List Nat} {column : Nat} {cells : List String}
    (h : Fits widths column cells) {j : Nat} (hj : j + 1 < cells.length) :
    column + j < widths.length := by
  fun_induction Fits widths column cells generalizing j with
  | case1 => cases hj
  | case2 => simp at hj
  | case3 column cell next cells ih =>
    obtain ⟨⟨width, hwidth, -⟩, hcells⟩ := h
    cases j with
    | zero => exact (List.getElem?_eq_some_iff.1 hwidth).1
    | succ j =>
      have hrest := ih hcells (Nat.lt_of_succ_lt_succ hj)
      omega

/-- Every cell before the last of its row has a width. A text of lines is written, one for each row,
and all cells of a column start behind the same number of characters. -/
theorem render_aligned (rows : List (List String)) :
    (∀ row ∈ rows, ∀ column, column + 1 < row.length → column < (columnWidths rows).length) ∧
      renderRows? (columnWidths rows) rows = some (render rows) ∧
      ∃ lines : List (List Placed), List.Forall₂ Shows lines rows ∧
        render rows = String.join (lines.map lineText) ∧
        ∀ line ∈ lines, ∀ other ∈ lines, ∀ column, column < line.length → column < other.length →
          (front line column).length = (front other column).length := by
  have hfits : ∀ row ∈ rows, Fits (columnWidths rows) 0 row := fun row h => fits_columnWidths h
  refine ⟨fun row hrow column hcolumn => ?_, renderRows?_columnWidths rows,
    rows.map (place (columnWidths rows) 0), ?_, render_eq_join rows, ?_⟩
  · simpa using (hfits row hrow).lt_length hcolumn
  · exact List.forall₂_map_left_iff.2 (List.forall₂_same.2 fun row _ => shows_place _ 0 row)
  · have hstart : ∀ line ∈ rows.map (place (columnWidths rows) 0), ∀ column < line.length,
        (front line column).length = 1 + offset (columnWidths rows) column := by
      refine List.forall_mem_map.2 fun row hrow column hcolumn => ?_
      rw [length_place] at hcolumn
      rw [front, String.length_append, length_join_take_place (hfits row hrow) hcolumn]
      rfl
    intro line hline other hother column hcolumn hcolumn'
    rw [hstart line hline column hcolumn, hstart other hother column hcolumn']

/-- The last cells of short rows take no part in the widths. -/
example : render [["id", "int", "tag"], ["größe", "time.Time"], []] =
    "\tid    int tag\n\tgröße time.Time\n\t\n" := by decide +kernel

end TypedQueries.Aligned
