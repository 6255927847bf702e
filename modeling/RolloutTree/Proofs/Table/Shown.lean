import RolloutTree.Proofs.Table

/-!
# Tables that are shown alike

A table is laid out by what is shown of its cells. If the cells of two tables are shown alike, then
their columns are equally wide and each cell gets as many spaces in one as in the other, so that
their lines are shown alike. Only at the end of a line there may be a difference: white space in
front of an escape sequence is not at the end and stays, although nothing is shown behind it.

## Main definitions

* `shown`: what is shown of the cells of a table.

## Main results

* `columnWidths_eq_of_shown`: the widths of columns depend on what is shown.
* `strip_padded_eq`: what is shown of a padded row depends on what is shown of its cells.
* `lines_shown_alike`: lines are shown alike up to the white space at their ends.
-/

namespace RolloutTree.Table

/-- What is shown of the cells of a table. -/
def shown (rows : List (List String)) : List (List String) := rows.map (List.map Escape.strip)

variable {rows rows' : List (List String)}

/-! ### The widths of columns -/

theorem columnCount_eq_of_shown (h : shown rows = shown rows') :
    columnCount rows = columnCount rows' := by
  have hcount (rows : List (List String)) : columnCount (shown rows) = columnCount rows := by
    simp only [columnCount, shown, List.foldl_map, List.length_map]
  rw [← hcount rows, h, hcount]

theorem columnWidth_eq_of_shown (h : shown rows = shown rows') (column : Nat) :
    columnWidth rows column = columnWidth rows' column := by
  have hwidth (rows : List (List String)) : columnWidth rows column =
      (shown rows).foldl
        (fun width row => max width ((row[column]?.map Text.Width.columns).getD 0)) 0 := by
    simp only [columnWidth, shown, List.foldl_map, List.getElem?_map, Option.map_map]
    rfl
  rw [hwidth, h, ← hwidth]

/-- Columns whose cells are shown alike are equally wide. -/
theorem columnWidths_eq_of_shown (h : shown rows = shown rows') :
    columnWidths rows = columnWidths rows' := by
  rw [columnWidths, columnWidths, columnCount_eq_of_shown h]
  exact List.map_congr_left fun column _ => columnWidth_eq_of_shown h column

/-! ### Padded rows -/

/-- The spaces after a padded cell are shown, and separate it from what follows. -/
theorem strip_padCell_append {cell : String} (h : ¬ Escape.IsUnterminated cell) (width : Nat)
    (rest : String) : Escape.strip (padCell width cell ++ rest) =
      Escape.strip cell ++ (spaces (width - visibleWidth cell + gap) ++ Escape.strip rest) := by
  have hpositive : 0 < width - visibleWidth cell + gap := Nat.add_pos_right _ (by decide)
  rw [padCell, spaces, String.append_assoc, Escape.strip_append_spaces h hpositive]

/-- What is shown of a padded row depends on what is shown of its cells. -/
theorem strip_padded_eq : (widths : List Nat) → (cells cells' : List String) →
    cells.map Escape.strip = cells'.map Escape.strip →
    (∀ cell ∈ cells, ¬ Escape.IsUnterminated cell) →
    (∀ cell ∈ cells', ¬ Escape.IsUnterminated cell) → cells.length ≤ widths.length + 1 →
    Escape.strip (padded widths cells) = Escape.strip (padded widths cells')
  | _, [], [], _, _, _, _ => rfl
  | [], cell :: cells, cell' :: cells', h, _, _, hlength => by
    obtain ⟨hcell, hcells⟩ := List.cons.inj h
    obtain rfl : cells = [] := List.length_eq_zero_iff.mp (Nat.le_zero.mp
      (Nat.le_of_succ_le_succ hlength))
    obtain rfl : cells' = [] := List.map_eq_nil_iff.mp hcells.symm
    simpa [padded] using hcell
  | width :: widths, cell :: cells, cell' :: cells', h, hclosed, hclosed', hlength => by
    obtain ⟨hcell, hcells⟩ := List.cons.inj h
    obtain ⟨hend, hends⟩ := List.forall_mem_cons.mp hclosed
    obtain ⟨hend', hends'⟩ := List.forall_mem_cons.mp hclosed'
    have hrest := strip_padded_eq widths cells cells' hcells hends hends'
      (Nat.le_of_succ_le_succ hlength)
    have hwidth : visibleWidth cell = visibleWidth cell' := congrArg Text.Width.columns hcell
    rw [padded, padded, strip_padCell_append hend, strip_padCell_append hend', hcell, hwidth,
      hrest]

/-! ### Lines -/

theorem dropTrailingBlanks_append_of_blank {cs blanks : List Char}
    (h : ∀ c ∈ blanks, Text.isBlank c = true) :
    Text.dropTrailingBlanks (cs ++ blanks) = Text.dropTrailingBlanks cs := by
  have hreverse : ∀ c ∈ blanks.reverse, Text.isBlank c = true :=
    fun c hc => h c (List.mem_reverse.mp hc)
  rw [Text.dropTrailingBlanks, List.reverse_append, List.dropWhile_append_of_pos hreverse,
    Text.dropTrailingBlanks]

/-- Of white space at the end of a text at most white space is shown. -/
theorem trimEnd_strip_trimEnd (text : String) :
    Text.trimEnd (Escape.strip (Text.trimEnd text)) = Text.trimEnd (Escape.strip text) := by
  obtain ⟨blanks, hblanks, htext⟩ := Text.dropTrailingBlanks_append text.toList
  have hrest (s : Escape.Scan) : ∀ c ∈ Escape.stripFrom s blanks, Text.isBlank c = true :=
    fun c hc => hblanks c ((Escape.stripFrom_sublist s blanks).subset hc)
  have hshown : Text.dropTrailingBlanks (Escape.stripFrom .text text.toList) =
      Text.dropTrailingBlanks
        (Escape.stripFrom .text (Text.dropTrailingBlanks text.toList)) := by
    rw [← htext, Escape.stripFrom_append, dropTrailingBlanks_append_of_blank (hrest _), htext]
  simp only [Text.trimEnd, Escape.strip, String.toList_ofList, hshown]

/-- The rows of tables whose cells are shown alike belong together one by one. -/
theorem forall₂_of_shown (h : shown rows = shown rows') :
    List.Forall₂ (fun row row' => row.map Escape.strip = row'.map Escape.strip) rows rows' := by
  rwa [shown, shown, ← List.forall₂_eq_eq_eq, List.forall₂_map_left_iff,
    List.forall₂_map_right_iff] at h

/-- If the cells of two tables are shown alike and none ends inside an escape sequence, then the
lines of the tables are shown alike up to the white space at their ends. -/
theorem lines_shown_alike (h : shown rows = shown rows')
    (hrows : ∀ row ∈ rows, ∀ cell ∈ row, ¬ Escape.IsUnterminated cell)
    (hrows' : ∀ row ∈ rows', ∀ cell ∈ row, ¬ Escape.IsUnterminated cell) :
    List.Forall₂ (fun line line' =>
      Text.trimEnd (Escape.strip line) = Text.trimEnd (Escape.strip line'))
      (lines rows) (lines rows') := by
  have hwidths : columnWidths rows = columnWidths rows' := columnWidths_eq_of_shown h
  obtain ⟨hlength, hcells⟩ := List.forall₂_iff_zip.mp (forall₂_of_shown h)
  rw [lines, lines, List.forall₂_map_left_iff, List.forall₂_map_right_iff, ← hwidths]
  refine List.forall₂_iff_zip.mpr ⟨hlength, fun {row row'} hmem => ?_⟩
  obtain ⟨hrow, hrow'⟩ := List.of_mem_zip hmem
  rw [trimEnd_strip_trimEnd, trimEnd_strip_trimEnd, strip_padded_eq _ row row' (hcells hmem)
    (hrows row hrow) (hrows' row' hrow') (length_le_length_columnWidths hrow)]

end RolloutTree.Table
