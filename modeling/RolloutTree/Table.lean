import RolloutTree.Style
import RolloutTree.Text.Blank

/-!
# Tables in columns

Rows of cells are laid out so that the cells of a column start at the same place on every line.
Every column but the last is as wide as its widest cell and two columns of space; a row may have
fewer cells than others, and a line ends where its last visible character does.

## Main definitions

* `Table.columnWidth`: the width of the widest cell of a column.
* `Table.padded`: a row with its cells padded to the given widths.
* `Table.lines`: the lines of a table.
-/

namespace RolloutTree.Table

/-- The space between a column's widest cell and the next column. -/
def gap : Nat := 2

/-- The number of columns: the cells of the longest row. -/
def columnCount (rows : List (List String)) : Nat :=
  rows.foldl (fun count row => max count row.length) 0

/-- The width of the widest cell of the column; a row that does not reach it has no part in it. -/
def columnWidth (rows : List (List String)) (column : Nat) : Nat :=
  rows.foldl (fun width row => max width ((row[column]?.map visibleWidth).getD 0)) 0

/-- The widths of all columns but the last. -/
def columnWidths (rows : List (List String)) : List Nat :=
  (List.range (columnCount rows - 1)).map (columnWidth rows)

/-- So many spaces. -/
def spaces (count : Nat) : String := String.ofList (List.replicate count ' ')

/-- The cell, padded to the column's width and the gap. -/
def padCell (width : Nat) (cell : String) : String :=
  cell ++ spaces (width - visibleWidth cell + gap)

/-- The cells one after the other, each padded that has a width. -/
def padded : List Nat → List String → String
  | width :: widths, cell :: cells => padCell width cell ++ padded widths cells
  | [], cells => String.join cells
  | _, [] => ""

/-- The lines of the table, one for each row. -/
def lines (rows : List (List String)) : List String :=
  let widths := columnWidths rows
  rows.map fun row => Text.trimEnd (padded widths row)

end RolloutTree.Table
