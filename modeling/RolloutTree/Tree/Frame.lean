import RolloutTree.Table
import RolloutTree.Tree.Branch
import RolloutTree.Tree.Node

/-!
# A tree as a table

Every node has one row: its branch, glyph and name, its kind, its status, its age and its tags. The
rows stand in the order in which the tree is read from the top, each node before its children, under
a row of headings. The frame is the table of these rows.

## Main definitions

* `Frame.header`: the headings.
* `Frame.row`: the row of one node.
* `Frame.nodeRows`, `Frame.rows`: the rows of a tree, without and with the headings.
* `Frame.lines`, `Frame.text`: the table and the text that shows it.
-/

namespace RolloutTree.Frame

/-- The headings of the columns. -/
def header : List String := ["NAME", "KIND", "STATUS", "AGE", "INFO"]

/-- A status in colour: its glyph and its text, each in its own. -/
def statusCell (p : Painter) : Option Status → String
  | none => ""
  | some s => p.paintToken s.icon.glyph ++ " " ++ p.paintToken s.text

/-- The tags, each in the colour of its first word. -/
def infoCell (p : Painter) (info : List String) : String :=
  ",".intercalate (info.map fun tag => p.paintAs (Text.firstWord tag) tag)

/-- The row of a node that stands behind the branch. -/
def row (p : Painter) (line : String) (node : Node) : List String :=
  [line ++ node.kind.icon ++ node.name, node.kind.label, statusCell p node.status, node.age,
    infoCell p node.info]

mutual

/-- The rows of a tree whose root stands behind the branch: the root's, then its children's. -/
def nodeRows (p : Painter) (b : Branch) : Node → List (List String)
  | ⟨kind, name, status, age, info, children⟩ =>
    row p b.line ⟨kind, name, status, age, info, children⟩ :: siblingRows p b.sub children

/-- The rows of siblings, of which the last one ends the branch. -/
def siblingRows (p : Painter) (sub : String) : List Node → List (List String)
  | [] => []
  | node :: nodes => nodeRows p (.below sub nodes.isEmpty) node ++ siblingRows p sub nodes

end

/-- The headings and the rows of the tree. -/
def rows (p : Painter) (root : Node) : List (List String) := header :: nodeRows p .root root

/-- The lines of the tree's table. -/
def lines (p : Painter) (root : Node) : List String := Table.lines (rows p root)

/-- The text that shows the tree: its lines, each with its end. -/
def text (p : Painter) (root : Node) : String := String.join ((lines p root).map (· ++ "\n"))

mutual

/-- A tree has one row for each of its nodes. -/
theorem length_nodeRows (p : Painter) (b : Branch) :
    (node : Node) → (nodeRows p b node).length = node.size
  | ⟨_, _, _, _, _, children⟩ => by
    rw [nodeRows, Node.size, List.length_cons, length_siblingRows p b.sub children, Nat.add_comm]

/-- Siblings have one row for each of their nodes. -/
theorem length_siblingRows (p : Painter) (sub : String) :
    (nodes : List Node) → (siblingRows p sub nodes).length = Node.sizes nodes
  | [] => rfl
  | node :: nodes => by
    rw [siblingRows, Node.sizes, List.length_append, length_nodeRows p _ node,
      length_siblingRows p sub nodes]

end

end RolloutTree.Frame
