import RolloutTree.Proofs.Style
import RolloutTree.Proofs.Table.Shown
import RolloutTree.Proofs.Tree.Places

/-!
# A tree in colour and without

Colours stand around the words of a status and around tags, and nowhere else in a row. The words of
a status are separated by a space and tags by commas, and both keep the end of one colour apart from
the start of the next. So a row in colour is shown as it is without, cell by cell, and the table is
laid out in the same way. Texts may have escape sequences of their own, but none may end inside a
sequence, which would swallow the start of the reset behind it.

## Main definitions

* `Node.texts`: the texts that a node is given.

## Main results

* `Frame.shown_rows`: the cells of a frame are shown as they are without colour.
* `Frame.color_moves_nothing`: the lines of a frame in colour and without.
-/

namespace RolloutTree

open Escape

/-- The texts that a node is given: its name, its age, the text of its status and its tags. -/
def Node.texts (node : Node) : List String :=
  node.name :: node.age :: ((node.status.map Status.text).toList ++ node.info)

theorem Node.forall_texts_iff {P : String → Prop} {node : Node} : (∀ text ∈ node.texts, P text) ↔
    P node.name ∧ P node.age ∧ (∀ s ∈ node.status, P s.text) ∧ ∀ tag ∈ node.info, P tag := by
  simp only [texts, List.forall_mem_cons, List.forall_mem_append]
  cases node.status <;> simp

theorem Kind.not_isUnterminated_label (kind : Kind) : ¬ IsUnterminated kind.label := by
  cases kind <;> decide

theorem Kind.ne_esc_of_mem_icon (kind : Kind) : ∀ c ∈ kind.icon.toList, c ≠ esc := by
  intro c hc hesc
  obtain ⟨icon, htext⟩ := kind.exists_icon
  have hicon : isIcon icon = true := isIcon_iff.mpr ⟨kind, htext⟩
  rw [htext, List.mem_singleton] at hc
  rw [← hc, hesc] at hicon
  exact absurd hicon (by decide)

theorem StatusIcon.not_isUnterminated_glyph (icon : StatusIcon) :
    ¬ IsUnterminated icon.glyph := by
  cases icon <;> decide

namespace Frame

variable (p : Painter)

theorem statusCell_some (s : Status) : statusCell p (some s) =
    p.paintToken s.icon.glyph ++ String.singleton ' ' ++ p.paintToken s.text := rfl

theorem infoCell_eq (info : List String) : infoCell p info =
    (String.singleton ',').intercalate
      (info.map fun tag => p.paintAs (Text.firstWord tag) tag) := rfl

/-! ### Where cells end -/

theorem not_isUnterminated_paintedIcon (icon : StatusIcon) :
    ¬ IsUnterminated (p.paintToken icon.glyph) :=
  Painter.not_isUnterminated_paint icon.not_isUnterminated_glyph _

theorem not_isUnterminated_paintedTags {info : List String}
    (h : ∀ tag ∈ info, ¬ IsUnterminated tag) :
    ∀ text ∈ info.map (fun tag => p.paintAs (Text.firstWord tag) tag), ¬ IsUnterminated text :=
  List.forall_mem_map.mpr fun tag htag => Painter.not_isUnterminated_paint (h tag htag) _

theorem not_isUnterminated_statusCell {status : Option Status}
    (h : ∀ s ∈ status, ¬ IsUnterminated s.text) : ¬ IsUnterminated (statusCell p status) := by
  cases status with
  | none => exact (by decide : ¬ IsUnterminated "")
  | some s =>
    have hicon := not_isUnterminated_paintedIcon p s.icon
    rw [statusCell_some, isUnterminated_append_separator hicon (by decide) (by decide)]
    exact Painter.not_isUnterminated_paint (h s rfl) _

theorem not_isUnterminated_infoCell {info : List String}
    (h : ∀ tag ∈ info, ¬ IsUnterminated tag) : ¬ IsUnterminated (infoCell p info) := by
  rw [infoCell_eq]
  exact not_isUnterminated_intercalate (by decide) (by decide) _
    (not_isUnterminated_paintedTags p h)

/-- The first cell of a row ends where the name does. -/
theorem isUnterminated_nameCell (e : Entry) :
    IsUnterminated (e.line ++ e.node.kind.icon ++ e.node.name) ↔ IsUnterminated e.node.name := by
  have hlead : ∀ c ∈ e.line.toList ++ e.node.kind.icon.toList, c ≠ esc := by
    intro c hc
    rcases List.mem_append.mp hc with hline | hicon
    · rcases Branch.mem_line e.place hline with rfl | rfl | rfl | rfl | rfl <;> decide
    · exact e.node.kind.ne_esc_of_mem_icon c hicon
  rw [IsUnterminated, String.toList_append, String.toList_append, Scan.run_append,
    Scan.run_text _ hlead]
  rfl

/-! ### What is shown of cells -/

/-- Of a status its glyph and its text are shown, whatever paints them. -/
theorem strip_statusCell {status : Option Status} (h : ∀ s ∈ status, ¬ IsUnterminated s.text) :
    strip (statusCell p status) = strip (statusCell ⟨false⟩ status) := by
  cases status with
  | none => rfl
  | some s =>
    have hshown (p : Painter) : strip (statusCell p (some s)) =
        strip s.icon.glyph ++ String.singleton ' ' ++ strip s.text := by
      rw [statusCell_some, strip_append_separator (not_isUnterminated_paintedIcon p s.icon)
        (by decide) (by decide), Painter.paintToken, Painter.paintToken, Painter.paintAs,
        Painter.paintAs, Painter.strip_paint s.icon.not_isUnterminated_glyph,
        Painter.strip_paint (h s rfl)]
    rw [hshown, hshown]

/-- Of tags the texts are shown, whatever paints them. -/
theorem strip_infoCell {info : List String} (h : ∀ tag ∈ info, ¬ IsUnterminated tag) :
    strip (infoCell p info) = strip (infoCell ⟨false⟩ info) := by
  have hshown (p : Painter) : strip (infoCell p info) =
      (String.singleton ',').intercalate (info.map strip) := by
    rw [infoCell_eq, strip_intercalate (by decide) (by decide) _
      (not_isUnterminated_paintedTags p h), List.map_map]
    refine congrArg _ (List.map_congr_left fun tag htag => ?_)
    exact Painter.strip_paint (h tag htag) _
  rw [hshown, hshown]

end Frame

/-! ### Rows -/

namespace Entry

variable {e : Entry}

/-- No cell of a row ends inside an escape sequence if no text of the node does. -/
theorem not_isUnterminated_of_mem_row (h : ∀ text ∈ e.node.texts, ¬ IsUnterminated text)
    (p : Painter) : ∀ cell ∈ e.row p, ¬ IsUnterminated cell := by
  obtain ⟨hname, hage, hstatus, hinfo⟩ := Node.forall_texts_iff.mp h
  have hlabel := e.node.kind.not_isUnterminated_label
  have hcell := Frame.not_isUnterminated_statusCell p hstatus
  have htags := Frame.not_isUnterminated_infoCell p hinfo
  simp only [row, Frame.row, List.forall_mem_cons, Frame.isUnterminated_nameCell]
  exact ⟨hname, hlabel, hcell, hage, htags, List.forall_mem_nil _⟩

/-- The cells of a row are shown as they are without colour. -/
theorem map_strip_row (h : ∀ text ∈ e.node.texts, ¬ IsUnterminated text) (p : Painter) :
    (e.row p).map strip = (e.row ⟨false⟩).map strip := by
  obtain ⟨-, -, hstatus, hinfo⟩ := Node.forall_texts_iff.mp h
  have hcell := Frame.strip_statusCell p hstatus
  have htags := Frame.strip_infoCell p hinfo
  simp only [row, Frame.row, List.map_cons, hcell, htags]

end Entry

/-! ### Frames -/

namespace Frame

variable {root : Node}

/-- The cells of a frame are shown as they are without colour. -/
theorem shown_rows (h : ∀ node ∈ root.nodes, ∀ text ∈ node.texts, ¬ IsUnterminated text)
    (p : Painter) : Table.shown (rows p root) = Table.shown (rows ⟨false⟩ root) := by
  have hentries := List.forall_mem_map.mp h
  simp only [Table.shown, rows_eq_map, List.map_cons, List.map_map]
  refine congrArg _ (List.map_congr_left fun e he => ?_)
  exact Entry.map_strip_row (hentries e he) p

/-- No cell of a frame ends inside an escape sequence if no text of a node does. -/
theorem not_isUnterminated_of_mem_rows
    (h : ∀ node ∈ root.nodes, ∀ text ∈ node.texts, ¬ IsUnterminated text) (p : Painter) :
    ∀ row ∈ rows p root, ∀ cell ∈ row, ¬ IsUnterminated cell := by
  have hentries := List.forall_mem_map.mp h
  rw [rows_eq_map, List.forall_mem_cons, List.forall_mem_map]
  exact ⟨by decide, fun e he => Entry.not_isUnterminated_of_mem_row (hentries e he) p⟩

/-- **Colour moves nothing**, if no text of a node ends inside an escape sequence. The columns of
the table are as wide in colour as without, and there are as many lines; line by line the same is
shown, up to the white space at the end. -/
theorem color_moves_nothing (root : Node)
    (h : ∀ node ∈ root.nodes, ∀ text ∈ node.texts, ¬ IsUnterminated text) :
    Table.columnWidths (rows ⟨true⟩ root) = Table.columnWidths (rows ⟨false⟩ root) ∧
    List.Forall₂ (fun colored plain => Text.trimEnd (strip colored) = Text.trimEnd (strip plain))
      (lines ⟨true⟩ root) (lines ⟨false⟩ root) := by
  have hshown := shown_rows h ⟨true⟩
  exact ⟨Table.columnWidths_eq_of_shown hshown, Table.lines_shown_alike hshown
    (not_isUnterminated_of_mem_rows h ⟨true⟩) (not_isUnterminated_of_mem_rows h ⟨false⟩)⟩

/-- A name that ends in a lone `ESC` and a tag with a sequence of its own move nothing. A blank at
the end of the last tag stays in colour and goes without, so that lines agree only up to it. -/
theorem color_moves_nothing_before_blanks :
    let root : Node := ⟨.pod, "web\x1b", some ⟨.ok, "Up"⟩, "2d", ["\x1b[1mready "], []⟩
    Table.columnWidths (rows ⟨true⟩ root) = [4, 4, 6, 3] ∧
    (lines ⟨true⟩ root).map strip ≠ (lines ⟨false⟩ root).map strip ∧
    List.Forall₂ (fun colored plain => Text.trimEnd (strip colored) = Text.trimEnd (strip plain))
      (lines ⟨true⟩ root) (lines ⟨false⟩ root) := by
  intro root
  have h := color_moves_nothing root (by decide)
  exact ⟨h.1.trans (by decide +kernel), by decide +kernel, h.2⟩

end Frame

end RolloutTree
