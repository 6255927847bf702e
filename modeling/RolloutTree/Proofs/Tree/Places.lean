import RolloutTree.Tree.Frame

/-!
# Places in a tree

The rows of a frame belong to the nodes of its tree, each node before its children. What stands in
front of a node depends on its place alone: on the steps that lead down to it, and for each of them
on whether it goes to a last child. Branches are drawn without the icons of kinds, so that a row can
be cut at its first icon: what stands before it is the branch, and what stands behind it is the
name, whatever characters the name has.

## Main definitions

* `Step`, `Place`: the way from the root of a tree down to a node.
* `Branch.ofPlace`: the branch of the node at a place.
* `Entry`, `Node.entries`: the nodes of a tree with their places, in the order of the rows.
* `isIcon`, `Frame.lead`: the characters of a row in front of its first icon.

## Main results

* `Branch.length_line`: a branch takes three characters for each step.
* `Frame.rows_eq_map`: every row but the first is the row of its entry.
* `Entry.lead_row`: what stands in front of the first icon of a row is the branch of its entry.
-/

namespace RolloutTree

/-! ### Places -/

/-- The step from a node to one of its children: how many of the children stand before that one,
and how many after it. -/
structure Step where
  before : Nat
  after : Nat
  deriving DecidableEq, Repr

/-- Whether the step goes to the last child. -/
def Step.isLast (step : Step) : Bool := step.after == 0

/-- The steps from the root of a tree down to a node, the last one first. -/
abbrev Place := List Step

namespace Branch

/-- The branch of the node at a place. -/
def ofPlace : Place → Branch
  | [] => root
  | step :: outer => below (ofPlace outer).sub step.isLast

theorem toList_line_below (sub : String) (isLast : Bool) :
    (below sub isLast).line.toList = sub.toList ++ [if isLast then '└' else '├', '─', '─'] := by
  cases isLast with
  | false => exact String.toList_append
  | true => exact String.toList_append

theorem toList_sub_below (sub : String) (isLast : Bool) :
    (below sub isLast).sub.toList = sub.toList ++ [if isLast then ' ' else '│', ' ', ' '] := by
  cases isLast with
  | false => exact String.toList_append
  | true => exact String.toList_append

/-- What stands in front of the children of a node takes three characters for each step. -/
theorem length_sub : (place : Place) → (ofPlace place).sub.toList.length = 3 * place.length
  | [] => rfl
  | step :: outer => by
    rw [ofPlace, toList_sub_below, List.length_append, length_sub outer]
    rfl

/-- A branch takes three characters for each step. -/
theorem length_line : (place : Place) → (ofPlace place).line.toList.length = 3 * place.length
  | [] => rfl
  | step :: outer => by
    rw [ofPlace, toList_line_below, List.length_append, length_sub outer]
    rfl

/-- In front of the branches of children stand only spaces and the lines of other branches. -/
theorem mem_sub {c : Char} : (place : Place) → c ∈ (ofPlace place).sub.toList → c = ' ' ∨ c = '│'
  | [], h => absurd h List.not_mem_nil
  | step :: outer, h => by
    rw [ofPlace, toList_sub_below, List.mem_append] at h
    rcases h with h | h
    · exact mem_sub outer h
    · cases hlast : step.isLast <;> simp [hlast] at h
      · exact h.symm
      · exact .inl h

theorem mem_line {c : Char} : (place : Place) → c ∈ (ofPlace place).line.toList →
    c = ' ' ∨ c = '│' ∨ c = '├' ∨ c = '└' ∨ c = '─'
  | [], h => absurd h List.not_mem_nil
  | step :: outer, h => by
    rw [ofPlace, toList_line_below, List.mem_append] at h
    rcases h with h | h
    · exact (mem_sub outer h).imp_right .inl
    · cases hlast : step.isLast <;> simp [hlast] at h
      · rcases h with rfl | rfl <;> simp
      · rcases h with rfl | rfl <;> simp

end Branch

/-! ### Entries -/

/-- A node of a tree and its place there. -/
structure Entry where
  place : Place
  node : Node

namespace Entry

/-- The branch in front of the node. -/
def line (e : Entry) : String := (Branch.ofPlace e.place).line

/-- The row of the node. -/
def row (p : Painter) (e : Entry) : List String := Frame.row p e.line e.node

end Entry

mutual

/-- The nodes of a tree whose root stands at the place: the root, then those of the trees of its
children. -/
def Node.entries (place : Place) : Node → List Entry
  | ⟨kind, name, status, age, info, children⟩ =>
    ⟨place, ⟨kind, name, status, age, info, children⟩⟩ :: Node.siblingEntries place 0 children

/-- The nodes of the trees of children, of which some have come before. -/
def Node.siblingEntries (place : Place) (before : Nat) : List Node → List Entry
  | [] => []
  | node :: nodes =>
    node.entries (⟨before, nodes.length⟩ :: place) ++ Node.siblingEntries place (before + 1) nodes

end

namespace Node

theorem entries_eq (place : Place) (node : Node) :
    node.entries place = ⟨place, node⟩ :: siblingEntries place 0 node.children := by
  cases node
  rfl

theorem siblingEntries_ne_nil (place : Place) (before : Nat) (node : Node) (nodes : List Node) :
    siblingEntries place before (node :: nodes) ≠ [] := by
  rw [siblingEntries, entries_eq]
  exact List.cons_ne_nil _ _

theorem head?_siblingEntries (place : Place) (before : Nat) (node : Node) (nodes : List Node) :
    (siblingEntries place before (node :: nodes)).head? =
      some ⟨⟨before, nodes.length⟩ :: place, node⟩ := by
  rw [siblingEntries, entries_eq]
  rfl

/-- The nodes of a tree, each before its children. -/
def nodes (root : Node) : List Node := (root.entries []).map Entry.node

end Node

namespace Frame

theorem isLast_eq_isEmpty (before : Nat) (nodes : List Node) :
    (Step.mk before nodes.length).isLast = nodes.isEmpty := by
  cases nodes <;> rfl

mutual

/-- The rows of a tree are those of its nodes. -/
theorem nodeRows_eq_map (p : Painter) (place : Place) : (node : Node) →
    nodeRows p (.ofPlace place) node = (node.entries place).map (Entry.row p)
  | ⟨_, _, _, _, _, children⟩ => by
    rw [nodeRows, Node.entries_eq, List.map_cons, siblingRows_eq_map p place 0 children]
    rfl

/-- The rows of siblings are those of the nodes of their trees. -/
theorem siblingRows_eq_map (p : Painter) (place : Place) (before : Nat) : (nodes : List Node) →
    siblingRows p (Branch.ofPlace place).sub nodes =
      (Node.siblingEntries place before nodes).map (Entry.row p)
  | [] => rfl
  | node :: nodes => by
    have hbranch : Branch.below (Branch.ofPlace place).sub nodes.isEmpty =
        .ofPlace (⟨before, nodes.length⟩ :: place) := by
      rw [Branch.ofPlace, isLast_eq_isEmpty]
    rw [siblingRows, Node.siblingEntries, List.map_append, hbranch, nodeRows_eq_map p _ node,
      siblingRows_eq_map p place (before + 1) nodes]

end

/-- Every row but the first is the row of its entry. -/
theorem rows_eq_map (p : Painter) (root : Node) :
    rows p root = header :: (root.entries []).map (Entry.row p) :=
  congrArg (header :: ·) (nodeRows_eq_map p [] root)

end Frame

/-! ### Icons -/

/-- Whether the character is the icon of a kind. -/
def isIcon (c : Char) : Bool := "⟳#⧉□⊞⑃Σα".toList.contains c

/-- The icons are those of the kinds. -/
theorem isIcon_iff {c : Char} : isIcon c = true ↔ ∃ kind : Kind, kind.icon.toList = [c] := by
  constructor
  · intro h
    have hmem : c ∈ ['⟳', '#', '⧉', '□', '⊞', '⑃', 'Σ', 'α'] := List.contains_iff_mem.mp h
    simp only [List.mem_cons, List.not_mem_nil, or_false] at hmem
    rcases hmem with rfl | rfl | rfl | rfl | rfl | rfl | rfl | rfl
    · exact ⟨.rollout, rfl⟩
    · exact ⟨.revision, rfl⟩
    · exact ⟨.replicaSet, rfl⟩
    · exact ⟨.pod, rfl⟩
    · exact ⟨.job, rfl⟩
    · exact ⟨.service, rfl⟩
    · exact ⟨.experiment, rfl⟩
    · exact ⟨.analysisRun, rfl⟩
  · rintro ⟨kind, h⟩
    cases kind <;> (obtain rfl := (List.cons.inj h).1; rfl)

theorem Kind.exists_icon (kind : Kind) : ∃ c, kind.icon.toList = [c] := by
  cases kind <;> exact ⟨_, rfl⟩

theorem Kind.icon_injective : Function.Injective Kind.icon := by
  intro a b h
  cases a <;> cases b <;> first | rfl | exact absurd h (by decide)

theorem Branch.isIcon_eq_false {place : Place} {c : Char} (h : c ∈ (ofPlace place).line.toList) :
    isIcon c = false := by
  rcases mem_line place h with rfl | rfl | rfl | rfl | rfl <;> rfl

namespace Frame

/-- What stands in a row in front of its first icon. -/
def lead (row : List String) : List Char := (row.headD "").toList.takeWhile fun c => !isIcon c

end Frame

namespace Entry

/-- The first cell of a row: the branch, the icon and the name. -/
theorem toList_headD_row (p : Painter) (e : Entry) {icon : Char}
    (h : e.node.kind.icon.toList = [icon]) :
    ((e.row p).headD "").toList = e.line.toList ++ icon :: e.node.name.toList := by
  simp [row, Frame.row, h]

/-- What stands in front of the first icon of a row is the branch of its entry. -/
theorem lead_row (p : Painter) (e : Entry) : Frame.lead (e.row p) = e.line.toList := by
  obtain ⟨icon, htext⟩ := e.node.kind.exists_icon
  have hicon : isIcon icon = true := isIcon_iff.mpr ⟨_, htext⟩
  have hline : ∀ c ∈ e.line.toList, (!isIcon c) = true := by
    intro c hc
    rw [Branch.isIcon_eq_false hc]
    rfl
  rw [Frame.lead, e.toList_headD_row p htext, List.takeWhile_append_of_pos hline,
    List.takeWhile_cons, hicon]
  simp

end Entry

end RolloutTree
