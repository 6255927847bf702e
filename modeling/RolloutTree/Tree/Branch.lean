/-!
# Branch lines

In front of a child's name stands a branch that comes down from its parent. The branch of the last
child turns and ends; any other goes on down past the lines of the child's own tree to the next
sibling.

## Main definitions

* `Branch`: what stands in front of a child, and in front of the children of that child.
* `Branch.below`: the branch of a child under what stands in front of its siblings.
-/

namespace RolloutTree

/-- What stands in front of a node, and what stands in front of its children's own branches. -/
structure Branch where
  line : String
  sub : String
  deriving DecidableEq, Repr

namespace Branch

/-- A tree's root has no branch. -/
def root : Branch := ⟨"", ""⟩

/-- The branch of a child: it ends there if the child is the last one, and goes on otherwise. -/
def below (sub : String) (isLast : Bool) : Branch :=
  if isLast then ⟨sub ++ "└──", sub ++ "   "⟩ else ⟨sub ++ "├──", sub ++ "│  "⟩

/-- The branches on the way down through children that are the last ones or not. -/
def descend (sub : String) : List Bool → List Branch
  | [] => []
  | isLast :: rest => below sub isLast :: descend (below sub isLast).sub rest

end Branch

end RolloutTree
