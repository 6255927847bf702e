import Mathlib.Algebra.GroupWithZero.Nat
import Mathlib.Data.List.Forall2
import Mathlib.Order.Bounds.Defs
import RolloutTree.Proofs.Text.Escape
import RolloutTree.Proofs.Text.Width
import RolloutTree.Table

/-!
# Columns that line up

The width of a cell is measured on the cell alone, but a terminal sees the whole line, in which a
cell is met after everything in front of it. A padded cell ends in spaces, and spaces separate: the
escape sequences and ligatures on one side of them have no part in what is shown on the other, as
long as no cell ends inside an escape sequence. What a row holds in front of a cell therefore takes
the widths of the columns there and their gaps, and this is the same for all rows.

## Main results

* `isGreatest_columnWidth`: a column is as wide as its widest cell.
* `visibleWidth_padded`: the columns that padded cells take together.
* `padded_eq_append`: a row with one of its cells in sight.
* `cells_line_up`: every cell of a column has the same columns in front of it.
-/

namespace RolloutTree.Table

/-! ### The widths of columns -/

variable {rows : List (List String)}

theorem le_foldl_max {α : Type} (size : α → Nat) : (items : List α) → (start : Nat) →
    start ≤ items.foldl (fun most item => max most (size item)) start ∧
      ∀ item ∈ items, size item ≤ items.foldl (fun most item => max most (size item)) start
  | [], start => ⟨Nat.le_refl start, nofun⟩
  | item :: items, start => by
    obtain ⟨hstart, hitems⟩ := le_foldl_max size items (max start (size item))
    refine ⟨Nat.le_trans (Nat.le_max_left ..) hstart, List.forall_mem_cons.mpr ⟨?_, hitems⟩⟩
    exact Nat.le_trans (Nat.le_max_right ..) hstart

theorem foldl_max_mem {α : Type} (size : α → Nat) : (items : List α) → (start : Nat) →
    items.foldl (fun most item => max most (size item)) start = start ∨
      ∃ item ∈ items, items.foldl (fun most item => max most (size item)) start = size item
  | [], _ => .inl rfl
  | item :: items, start => by
    rw [List.foldl_cons]
    rcases foldl_max_mem size items (max start (size item)) with h | ⟨other, hmem, h⟩
    · rcases Nat.le_total (size item) start with hle | hle
      · exact .inl (h.trans (Nat.max_eq_left hle))
      · exact .inr ⟨item, List.mem_cons_self, h.trans (Nat.max_eq_right hle)⟩
    · exact .inr ⟨other, List.mem_cons_of_mem _ hmem, h⟩

theorem length_le_columnCount {row : List String} (hrow : row ∈ rows) :
    row.length ≤ columnCount rows :=
  (le_foldl_max List.length rows 0).2 row hrow

/-- A cell is at most as wide as its column. -/
theorem visibleWidth_le_columnWidth {row : List String} {column : Nat} {cell : String}
    (hrow : row ∈ rows) (hcell : row[column]? = some cell) :
    visibleWidth cell ≤ columnWidth rows column := by
  have hle := (le_foldl_max (fun row : List String => (row[column]?.map visibleWidth).getD 0)
    rows 0).2 row hrow
  rwa [hcell] at hle

/-- Every column has a cell in the longest row. -/
theorem exists_cell {column : Nat} (hcolumn : column < columnCount rows) :
    ∃ row ∈ rows, ∃ cell, row[column]? = some cell := by
  rcases foldl_max_mem List.length rows 0 with h | ⟨row, hrow, h⟩
  · exact absurd (h ▸ hcolumn) (Nat.not_lt_zero column)
  · exact ⟨row, hrow, _, List.getElem?_eq_getElem (h ▸ hcolumn)⟩

/-- The widths of the cells of a column. -/
def cellWidths (rows : List (List String)) (column : Nat) : Set Nat :=
  {width | ∃ row ∈ rows, ∃ cell, row[column]? = some cell ∧ visibleWidth cell = width}

/-- A column is as wide as its widest cell. -/
theorem isGreatest_columnWidth {column : Nat} (hcolumn : column < columnCount rows) :
    IsGreatest (cellWidths rows column) (columnWidth rows column) := by
  -- a column of width 0 is not as wide as a row that lacks it, but as a cell of the longest row
  have hzero (h : columnWidth rows column = 0) :
      columnWidth rows column ∈ cellWidths rows column := by
    obtain ⟨row, hrow, cell, hcell⟩ := exists_cell hcolumn
    exact ⟨row, hrow, cell, hcell,
      Nat.le_antisymm (visibleWidth_le_columnWidth hrow hcell) (h ▸ Nat.zero_le _)⟩
  refine ⟨?_, ?_⟩
  · rcases foldl_max_mem (fun row : List String => (row[column]?.map visibleWidth).getD 0) rows 0
      with h | ⟨row, hrow, h⟩
    · exact hzero h
    · cases hcell : row[column]? with
      | none =>
        rw [hcell] at h
        exact hzero h
      | some cell =>
        rw [hcell] at h
        exact ⟨row, hrow, cell, hcell, h.symm⟩
  · rintro _ ⟨row, hrow, cell, hcell, rfl⟩
    exact visibleWidth_le_columnWidth hrow hcell

/-- The widths belong to all columns but the last. -/
theorem getElem?_columnWidths {column width : Nat} :
    (columnWidths rows)[column]? = some width ↔
      column + 1 < columnCount rows ∧ columnWidth rows column = width := by
  simp only [columnWidths, List.getElem?_map, Option.map_eq_some_iff, List.getElem?_eq_some_iff,
    List.length_range, List.getElem_range]
  constructor
  · rintro ⟨_, ⟨hlt, rfl⟩, rfl⟩
    exact ⟨Nat.add_lt_of_lt_sub hlt, rfl⟩
  · rintro ⟨hlt, rfl⟩
    exact ⟨column, ⟨Nat.lt_sub_of_add_lt hlt, rfl⟩, rfl⟩

theorem length_le_length_columnWidths {row : List String} (hrow : row ∈ rows) :
    row.length ≤ (columnWidths rows).length + 1 := by
  have hcount := length_le_columnCount hrow
  simp only [columnWidths, List.length_map, List.length_range]
  omega

/-! ### Padded cells -/

theorem visibleWidth_empty : visibleWidth "" = 0 := by decide

theorem padded_nil : (widths : List Nat) → padded widths [] = ""
  | [] => rfl
  | _ :: _ => rfl

/-- The spaces after a padded cell separate it from what follows. -/
theorem visibleWidth_padCell_append {width : Nat} {cell : String}
    (hcell : ¬ Escape.IsUnterminated cell) (hwidth : visibleWidth cell ≤ width) (rest : String) :
    visibleWidth (padCell width cell ++ rest) = width + gap + visibleWidth rest := by
  have hpositive : 0 < width - visibleWidth cell + gap := Nat.add_pos_right _ (by decide)
  have hcolumns :=
    Text.Width.columns_append_spaces (Escape.strip cell) (Escape.strip rest) hpositive
  rw [padCell, visibleWidth, spaces, String.append_assoc,
    Escape.strip_append_spaces hcell hpositive, ← String.append_assoc, hcolumns]
  unfold visibleWidth at hwidth ⊢
  omega

/-- Padded cells take the widths of their columns and the gaps together. -/
theorem visibleWidth_padded : (widths : List Nat) → (cells : List String) →
    cells.length ≤ widths.length → (∀ cell ∈ cells, ¬ Escape.IsUnterminated cell) →
    (∀ (column width : Nat) (cell : String), widths[column]? = some width →
      cells[column]? = some cell → visibleWidth cell ≤ width) →
    visibleWidth (padded widths cells) = ((widths.take cells.length).map (· + gap)).sum
  | [], [], _, _, _ => visibleWidth_empty
  | _ :: _, [], _, _, _ => visibleWidth_empty
  | width :: widths, cell :: cells, hlength, hclosed, hwidths => by
    obtain ⟨hcell, hcells⟩ := List.forall_mem_cons.mp hclosed
    have hrest := visibleWidth_padded widths cells (Nat.le_of_succ_le_succ hlength) hcells
      fun column => hwidths (column + 1)
    rw [padded, visibleWidth_padCell_append hcell (hwidths 0 width cell rfl rfl), hrest]
    rfl

/-- A row with one of its cells in sight: in front of it stand the cells before it, padded. -/
theorem padded_eq_append : (widths : List Nat) → (cells : List String) → {column : Nat} →
    {cell : String} → column ≤ widths.length → cells[column]? = some cell →
    ∃ rest, padded widths cells = padded widths (cells.take column) ++ cell ++ rest
  | [], cell :: cells, 0, _, _, rfl => ⟨String.join cells, by simp [padded, String.join_cons]⟩
  | width :: widths, cell :: cells, 0, _, _, rfl => ⟨_, by
      rw [padded, padCell, List.take_zero, padded_nil, String.empty_append, String.append_assoc]⟩
  | width :: widths, cell :: cells, column + 1, _, hcolumn, hcell => by
    obtain ⟨rest, hrest⟩ :=
      padded_eq_append widths cells (Nat.le_of_succ_le_succ hcolumn) hcell
    refine ⟨rest, ?_⟩
    rw [padded, hrest, List.take_succ_cons, padded]
    simp only [String.append_assoc]

/-! ### Lines -/

/-- A trimmed line does not end in white space. -/
theorem isBlank_eq_false_of_getLast? {cs : List Char} {c : Char}
    (hc : (Text.dropTrailingBlanks cs).getLast? = some c) : Text.isBlank c = false := by
  have hlast := List.head?_dropWhile_not Text.isBlank cs.reverse
  rw [Text.dropTrailingBlanks, List.getLast?_reverse] at hc
  rwa [hc] at hlast

/-- The line is the text without the white space at its end. -/
def IsTrimmed (text line : String) : Prop :=
  (∃ blanks, (∀ c ∈ blanks, Text.isBlank c = true) ∧ line.toList ++ blanks = text.toList) ∧
    ∀ c, line.toList.getLast? = some c → Text.isBlank c = false

theorem isTrimmed_trimEnd (text : String) : IsTrimmed text (Text.trimEnd text) := by
  rw [IsTrimmed, Text.trimEnd, String.toList_ofList]
  exact ⟨Text.dropTrailingBlanks_append text.toList, fun _ => isBlank_eq_false_of_getLast?⟩

/-! ### The table -/

/-- **The columns of a table line up**, if no cell ends inside an escape sequence.

* Every column but the last has the width of its widest cell, so that no cell is too wide to be
  padded.
* In a padded row every cell has the padded cells before it in front of it, and these take the
  widths of their columns and two columns of space each, in this row as in any other.
* Every row has one line, which is the padded row without the white space at its end. -/
theorem cells_line_up (hrows : ∀ row ∈ rows, ∀ cell ∈ row, ¬ Escape.IsUnterminated cell) :
    (∀ column width : Nat, (columnWidths rows)[column]? = some width →
      IsGreatest (cellWidths rows column) width) ∧
    (∀ row ∈ rows, ∀ (column : Nat) (cell : String), row[column]? = some cell →
      (∀ width, (columnWidths rows)[column]? = some width → visibleWidth cell ≤ width) ∧
      column ≤ (columnWidths rows).length ∧
      (∃ rest, padded (columnWidths rows) row =
        padded (columnWidths rows) (row.take column) ++ cell ++ rest) ∧
      visibleWidth (padded (columnWidths rows) (row.take column)) =
        (((columnWidths rows).take column).map (· + 2)).sum) ∧
    List.Forall₂ (fun row line => IsTrimmed (padded (columnWidths rows) row) line) rows
      (lines rows) := by
  have hwidest (column width : Nat) (h : (columnWidths rows)[column]? = some width) :
      IsGreatest (cellWidths rows column) width := by
    obtain ⟨hlt, rfl⟩ := getElem?_columnWidths.mp h
    exact isGreatest_columnWidth (Nat.lt_of_succ_lt hlt)
  have hfits {row : List String} (hrow : row ∈ rows) {column : Nat} {cell : String}
      (hcell : row[column]? = some cell) {width : Nat}
      (h : (columnWidths rows)[column]? = some width) : visibleWidth cell ≤ width :=
    (hwidest column width h).2 ⟨row, hrow, cell, hcell, rfl⟩
  refine ⟨hwidest, fun row hrow column cell hcell => ?_, ?_⟩
  · have hlt : column < row.length := (List.getElem?_eq_some_iff.mp hcell).1
    have hcolumn : column ≤ (columnWidths rows).length := by
      have := length_le_length_columnWidths hrow
      omega
    have hlength : (row.take column).length = column := List.length_take_of_le (Nat.le_of_lt hlt)
    refine ⟨fun width h => hfits hrow hcell h, hcolumn, padded_eq_append _ _ hcolumn hcell, ?_⟩
    rw [visibleWidth_padded _ _ (by omega) ?_ ?_, hlength]
    · rfl
    · exact fun other hother => hrows row hrow other (List.mem_of_mem_take hother)
    · intro other width otherCell hwidth hother
      rw [List.getElem?_take] at hother
      split at hother
      · exact hfits hrow hother hwidth
      · exact nomatch hother
  · rw [lines, List.forall₂_map_right_iff, List.forall₂_same]
    exact fun row _ => isTrimmed_trimEnd _

/-- In front of the last cell of a coloured row stand the eleven columns of its first cell and the
eight of its second; another cell ends in a lone `ESC`, and one row has a single cell. -/
theorem cells_line_up_in_color :
    visibleWidth (padded (columnWidths [["NAME", "STATUS", "INFO"],
      ["guestbook\x1b", "\x1b[32m✔\x1b[0m", "stable"], ["只"]])
      ["guestbook\x1b", "\x1b[32m✔\x1b[0m"]) = 19 := by
  have h := @cells_line_up [["NAME", "STATUS", "INFO"],
    ["guestbook\x1b", "\x1b[32m✔\x1b[0m", "stable"], ["只"]] (by decide +kernel)
  have hrow := h.2.1 ["guestbook\x1b", "\x1b[32m✔\x1b[0m", "stable"] (by decide) 2 "stable" rfl
  exact hrow.2.2.2.trans (by decide +kernel)

end RolloutTree.Table
