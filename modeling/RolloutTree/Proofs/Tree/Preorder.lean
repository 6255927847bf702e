import Mathlib.Data.List.Lex
import RolloutTree.Proofs.Tree.Places

/-!
# The rows in order

The rows of a frame list the nodes that can be reached from the root, each exactly once. A node is
known by the way that leads to it: which child is taken at each step, of how many. A node stands
before everything below it, and of two nodes in different trees of siblings the one in the earlier
tree stands first; so the rows are in the lexicographic order of the children taken on the way.

The branch in front of a node is drawn from the same way, three characters for each step: spaces
under a last child, a line under any other one, and at the end the node's own fork.

## Main definitions

* `Node.Leads`: steps lead from a node down to another one.
* `Place.way`, `Place.taken`: the steps from the root on, and the children that they take.
* `Branch.segments`: what is drawn for each step on the way.

## Main results

* `Node.mem_entries_iff`: the entries are the nodes that steps lead to.
* `Node.pairwise_entries`: they are in the lexicographic order of the children taken.
* `Branch.line_eq_join`: a branch is drawn step by step.
* `Frame.rows_in_preorder`: which rows there are, in which order, and what is in their cells.
-/

namespace RolloutTree

/-! ### Ways -/

namespace Step

/-- How many children there are to choose from. -/
def siblings (step : Step) : Nat := step.before + step.after + 1

theorem isLast_eq_decide (step : Step) :
    step.isLast = decide (step.before = step.siblings - 1) := by
  rw [isLast, siblings, Bool.eq_iff_iff, beq_iff_eq, decide_eq_true_iff]
  omega

end Step

/-- Steps lead from a node down to another one. Each takes a child of the node that the steps before
it have led to, and knows how many children that node has. -/
inductive Node.Leads : Node → List Step → Node → Prop
  | here (node : Node) : Leads node [] node
  | down {node child target : Node} {step : Step} {steps : List Step}
    (hchild : node.children[step.before]? = some child)
    (hsiblings : node.children.length = step.siblings) (h : Leads child steps target) :
    Leads node (step :: steps) target

namespace Place

/-- The steps from the root on. -/
def way (place : Place) : List Step := place.reverse

/-- The children that are taken on the way from the root. -/
def taken (place : Place) : List Nat := place.way.map Step.before

theorem taken_cons (step : Step) (place : Place) :
    taken (step :: place) = taken place ++ [step.before] := by
  simp [taken, way]

theorem taken_append (inner outer : Place) :
    taken (inner ++ outer) = taken outer ++ taken inner := by
  simp [taken, way]

end Place

/-! ### The nodes that are listed -/

namespace Node

mutual

/-- The entries of a tree are the nodes that steps lead to from its root. -/
theorem mem_entries_iff {place : Place} {e : Entry} : (node : Node) →
    (e ∈ node.entries place ↔ ∃ steps, e.place = steps.reverse ++ place ∧ node.Leads steps e.node)
  | ⟨kind, name, status, age, info, children⟩ => by
    rw [entries_eq, List.mem_cons, mem_siblingEntries_iff children]
    constructor
    · rintro (rfl | ⟨i, child, steps, hchild, hplace, h⟩)
      · exact ⟨[], rfl, .here _⟩
      · have hlt : i < children.length := (List.getElem?_eq_some_iff.mp hchild).1
        refine ⟨⟨i, children.length - 1 - i⟩ :: steps, ?_, .down hchild ?_ h⟩
        · rw [hplace, List.reverse_cons, List.append_assoc, Nat.zero_add]
          rfl
        · change children.length = i + (children.length - 1 - i) + 1
          omega
    · obtain ⟨ePlace, target⟩ := e
      rintro ⟨steps, rfl, h⟩
      cases h with
      | here => exact .inl rfl
      | @down _ child _ step steps hchild hsiblings h =>
        -- a step knows how many children there are, and so how many stand after the one it takes
        have hafter : children.length - 1 - step.before = step.after := by
          change children.length = step.before + step.after + 1 at hsiblings
          omega
        refine .inr ⟨step.before, child, steps, hchild, ?_, h⟩
        rw [hafter, List.reverse_cons, List.append_assoc, Nat.zero_add]
        rfl

/-- The entries of the trees of siblings are the nodes that steps lead to from one of them. -/
theorem mem_siblingEntries_iff {place : Place} {before : Nat} {e : Entry} : (nodes : List Node) →
    (e ∈ siblingEntries place before nodes ↔ ∃ i child steps, nodes[i]? = some child ∧
      e.place = steps.reverse ++ ⟨before + i, nodes.length - 1 - i⟩ :: place ∧
      child.Leads steps e.node)
  | [] => by simp [siblingEntries]
  | node :: nodes => by
    have hafter (i : Nat) : (node :: nodes).length - 1 - (i + 1) = nodes.length - 1 - i := by
      rw [List.length_cons]
      omega
    have hbefore (i : Nat) : before + (i + 1) = before + 1 + i := by omega
    rw [siblingEntries, List.mem_append, mem_entries_iff node, mem_siblingEntries_iff nodes]
    constructor
    · rintro (⟨steps, hplace, h⟩ | ⟨i, child, steps, hchild, hplace, h⟩)
      · exact ⟨0, node, steps, rfl, hplace, h⟩
      · refine ⟨i + 1, child, steps, hchild, ?_, h⟩
        rw [hplace, hafter, hbefore i]
    · rintro ⟨_ | i, child, steps, hchild, hplace, h⟩
      · obtain rfl := Option.some.inj hchild
        exact .inl ⟨steps, hplace, h⟩
      · rw [hafter, hbefore i] at hplace
        exact .inr ⟨i, child, steps, hchild, hplace, h⟩

end

/-! ### Their order -/

theorem taken_of_mem_siblingEntries {place : Place} {before : Nat} {nodes : List Node} {e : Entry}
    (h : e ∈ siblingEntries place before nodes) :
    ∃ i rest, e.place.taken = place.taken ++ (before + i) :: rest := by
  obtain ⟨i, _, steps, -, hplace, -⟩ := (mem_siblingEntries_iff nodes).mp h
  refine ⟨i, Place.taken steps.reverse, ?_⟩
  rw [hplace, Place.taken_append, Place.taken_cons, List.append_assoc]
  rfl

theorem taken_of_mem_entries {place : Place} {node : Node} {e : Entry}
    (h : e ∈ node.entries place) : ∃ rest, e.place.taken = place.taken ++ rest := by
  obtain ⟨steps, hplace, -⟩ := (mem_entries_iff node).mp h
  exact ⟨Place.taken steps.reverse, by rw [hplace, Place.taken_append]⟩

mutual

/-- A node stands before everything below it. -/
theorem pairwise_entries (place : Place) : (node : Node) →
    (node.entries place).Pairwise fun e e' => List.Lex (· < ·) e.place.taken e'.place.taken
  | ⟨kind, name, status, age, info, children⟩ => by
    rw [entries_eq, List.pairwise_cons]
    refine ⟨fun e he => ?_, pairwise_siblingEntries place 0 children⟩
    obtain ⟨i, rest, htaken⟩ := taken_of_mem_siblingEntries he
    have hnil : List.Lex (· < ·) [] ((0 + i) :: rest) := .nil
    have h := hnil.append_left _ place.taken
    rwa [List.append_nil, ← htaken] at h

/-- A tree of siblings stands before the trees of the siblings after it. -/
theorem pairwise_siblingEntries (place : Place) (before : Nat) : (nodes : List Node) →
    (siblingEntries place before nodes).Pairwise
      fun e e' => List.Lex (· < ·) e.place.taken e'.place.taken
  | [] => .nil
  | node :: nodes => by
    rw [siblingEntries, List.pairwise_append]
    refine ⟨pairwise_entries _ node, pairwise_siblingEntries place _ nodes, fun e he e' he' => ?_⟩
    obtain ⟨rest, htaken⟩ := taken_of_mem_entries he
    obtain ⟨i, rest', htaken'⟩ := taken_of_mem_siblingEntries he'
    -- the ways part at the child of the common parent
    have hlt : before < before + 1 + i := by omega
    rw [htaken, htaken', Place.taken_cons, List.append_assoc]
    exact (List.Lex.rel hlt).append_left _ place.taken

end

end Node

/-! ### The branches of ways -/

namespace Step

/-- What is drawn for a step in front of everything below the child. -/
def bar (step : Step) : String := if step.before = step.siblings - 1 then "   " else "│  "

/-- What is drawn for a step in front of the child. -/
def fork (step : Step) : String := if step.before = step.siblings - 1 then "└──" else "├──"

theorem length_bar (step : Step) : step.bar.length = 3 := by
  rw [bar]
  split <;> rfl

theorem length_fork (step : Step) : step.fork.length = 3 := by
  rw [fork]
  split <;> rfl

end Step

namespace Branch

/-- What is drawn in front of a node, step by step: the bars of all steps but the last one, and the
fork of that one. -/
def segments (steps : List Step) : List String :=
  steps.dropLast.map Step.bar ++ (steps.getLast?.map Step.fork).toList

theorem segments_concat (steps : List Step) (step : Step) :
    segments (steps ++ [step]) = steps.map Step.bar ++ [step.fork] := by
  simp [segments]

theorem length_segments (steps : List Step) : (segments steps).length = steps.length := by
  rcases List.eq_nil_or_concat steps with rfl | ⟨steps, step, rfl⟩
  · rfl
  · simp [segments_concat]

theorem length_of_mem_segments {steps : List Step} :
    ∀ segment ∈ segments steps, segment.length = 3 := by
  intro segment h
  rw [segments, List.mem_append, List.mem_map, Option.mem_toList, Option.map_eq_some_iff] at h
  rcases h with ⟨step, -, rfl⟩ | ⟨step, -, rfl⟩
  · exact step.length_bar
  · exact step.length_fork

theorem below_isLast (sub : String) (step : Step) :
    below sub step.isLast = ⟨sub ++ step.fork, sub ++ step.bar⟩ := by
  rw [below, step.isLast_eq_decide, Step.fork, Step.bar]
  by_cases h : step.before = step.siblings - 1 <;> simp [h]

/-- What stands in front of the children of a node is drawn from the way that leads to it. -/
theorem sub_eq_join : (place : Place) →
    (ofPlace place).sub = String.join (place.way.map Step.bar)
  | [] => String.join_nil.symm
  | step :: outer => by
    rw [ofPlace, below_isLast, sub_eq_join outer, Place.way, Place.way, List.reverse_cons,
      List.map_append, String.join_append, List.map_singleton]
    simp

/-- A branch is drawn step by step from the way that leads to its node. -/
theorem line_eq_join : (place : Place) →
    (ofPlace place).line = String.join (segments place.way)
  | [] => String.join_nil.symm
  | step :: outer => by
    rw [ofPlace, below_isLast, sub_eq_join outer, Place.way, Place.way, List.reverse_cons,
      segments_concat, String.join_append]
    simp

end Branch

/-! ### The rows of a frame -/

namespace Node

/-- There are as many entries as nodes. -/
theorem length_entries (root : Node) : (root.entries []).length = root.size := by
  rw [← Frame.length_nodeRows ⟨false⟩ (Branch.ofPlace []) root, Frame.nodeRows_eq_map,
    List.length_map]

end Node

namespace Frame

/-- **The rows of a frame list its tree in order.**

* Under the headings stands the row of each entry, and there are as many entries as nodes.
* The entries are the nodes that steps lead to from the root.
* They stand in the lexicographic order of the children that are taken on the way, so that a node
  comes before everything below it, and a tree of siblings before those after it.
* A row has five cells. The first one has the branch, the icon and the name. For each step on the
  way the branch has three characters: a bar for every step but the last, and its fork for that. -/
theorem rows_in_preorder (p : Painter) (root : Node) :
    rows p root = header :: (root.entries []).map (Entry.row p) ∧
    (root.entries []).length = root.size ∧
    (∀ e : Entry, e ∈ root.entries [] ↔ root.Leads e.place.way e.node) ∧
    ((root.entries []).Pairwise fun e e' => List.Lex (· < ·) e.place.taken e'.place.taken) ∧
    ∀ e ∈ root.entries [],
      e.row p = [String.join (Branch.segments e.place.way) ++ e.node.kind.icon ++ e.node.name,
        e.node.kind.label, statusCell p e.node.status, e.node.age, infoCell p e.node.info] ∧
      (Branch.segments e.place.way).length = e.place.way.length ∧
      (∀ segment ∈ Branch.segments e.place.way, segment.length = 3) ∧
      (String.join (Branch.segments e.place.way)).length = 3 * e.place.way.length := by
  refine ⟨rows_eq_map p root, root.length_entries, fun e => ?_, Node.pairwise_entries [] root,
    fun e _ => ⟨?_, Branch.length_segments _, Branch.length_of_mem_segments, ?_⟩⟩
  · rw [Node.mem_entries_iff]
    constructor
    · rintro ⟨steps, hplace, h⟩
      rwa [hplace, List.append_nil, Place.way, List.reverse_reverse]
    · intro h
      exact ⟨e.place.way, by rw [Place.way, List.reverse_reverse, List.append_nil], h⟩
  · rw [← Branch.line_eq_join]
    rfl
  · rw [← Branch.line_eq_join, ← String.length_toList, Branch.length_line, Place.way,
      List.length_reverse]

end Frame

end RolloutTree
