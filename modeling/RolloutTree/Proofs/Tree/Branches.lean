import Mathlib.Data.List.Chain
import RolloutTree.Proofs.Tree.Places

/-!
# Branch lines from row to row

The branches of a frame are drawn row by row, each from the place of its node alone, but they are
read from the top to the bottom. After a node comes its first child, or, when the node is the last
one of a tree, the root of the next tree among siblings. In both cases the two rows agree in every
column of the upper branch: a line goes down from a glyph of the upper row exactly if it comes down
to the glyph below it.

## Main definitions

* `Entry.Next`: the second entry comes next after the first.
* `Branch.goesDown`, `Branch.comesDown`: the glyphs that have a line below them, or above.
* `Branch.Meets`: two branches agree in every column of the upper one.

## Main results

* `Node.isChain_entries`: every entry is followed by the next one.
* `Entry.Next.meets`: the branches of two neighbours meet.
* `Frame.branches_connected`: so do the branches of any two rows.
-/

namespace RolloutTree

/-! ### The order of entries -/

/-- The second entry comes next after the first: it is the first child, or the sibling after a tree
of which the first entry is the last. -/
inductive Entry.Next : Entry → Entry → Prop
  | child (place : Place) (parent child : Node) (others : List Node)
      (h : parent.children = child :: others) :
      Next ⟨place, parent⟩ ⟨⟨0, others.length⟩ :: place, child⟩
  | sibling (inner outer : Place) (before after : Nat) (last node : Node)
      (h : ∀ step ∈ inner, step.isLast = true) :
      Next ⟨inner ++ ⟨before, after + 1⟩ :: outer, last⟩ ⟨⟨before + 1, after⟩ :: outer, node⟩

namespace Node

mutual

/-- The steps from the root of a tree down to its last entry all go to last children. -/
theorem place_of_mem_getLast? {place : Place} {e : Entry} : (node : Node) →
    e ∈ (node.entries place).getLast? →
    ∃ inner, e.place = inner ++ place ∧ ∀ step ∈ inner, step.isLast = true
  | ⟨kind, name, status, age, info, children⟩, h => by
    rw [entries_eq, List.getLast?_cons, Option.mem_some_iff] at h
    cases hlast : (siblingEntries place 0 children).getLast? with
    | none =>
      rw [hlast] at h
      subst h
      exact ⟨[], rfl, nofun⟩
    | some last =>
      rw [hlast] at h
      subst h
      exact place_of_mem_getLast?_siblings children hlast

/-- The steps from the parent of siblings down to their last entry all go to last children. -/
theorem place_of_mem_getLast?_siblings {place : Place} {before : Nat} {e : Entry} :
    (nodes : List Node) → e ∈ (siblingEntries place before nodes).getLast? →
    ∃ inner, e.place = inner ++ place ∧ ∀ step ∈ inner, step.isLast = true
  | [], h => nomatch h
  | node :: nodes, h => by
    rw [siblingEntries, List.getLast?_append, Option.mem_def, Option.or_eq_some_iff] at h
    rcases h with h | ⟨hnone, h⟩
    · exact place_of_mem_getLast?_siblings nodes h
    · cases nodes with
      | nil =>
        obtain ⟨inner, hplace, hlast⟩ := place_of_mem_getLast? node h
        refine ⟨inner ++ [⟨before, 0⟩], by rw [hplace]; simp, fun step hstep => ?_⟩
        rcases List.mem_append.mp hstep with hstep | hstep
        · exact hlast step hstep
        · rw [List.mem_singleton.mp hstep]
          rfl
      | cons other nodes =>
        exact absurd (List.getLast?_eq_none_iff.mp hnone)
          (siblingEntries_ne_nil place (before + 1) other nodes)

end

mutual

/-- Every entry of a tree is followed by the next one. -/
theorem isChain_entries (place : Place) : (node : Node) →
    (node.entries place).IsChain Entry.Next
  | ⟨kind, name, status, age, info, children⟩ => by
    rw [entries_eq]
    refine List.isChain_cons.mpr ⟨fun e he => ?_, isChain_siblingEntries place 0 children⟩
    cases children with
    | nil => exact nomatch he
    | cons child others =>
      rw [head?_siblingEntries, Option.mem_some_iff] at he
      subst he
      exact .child place _ child others rfl

/-- So is every entry of the trees of siblings. -/
theorem isChain_siblingEntries (place : Place) (before : Nat) : (nodes : List Node) →
    (siblingEntries place before nodes).IsChain Entry.Next
  | [] => .nil
  | node :: nodes => by
    rw [siblingEntries]
    refine (isChain_entries _ node).append (isChain_siblingEntries place _ nodes) ?_
    rintro ⟨lastPlace, last⟩ hlast e he
    cases nodes with
    | nil => exact nomatch he
    | cons next others =>
      rw [head?_siblingEntries, Option.mem_some_iff] at he
      subst he
      obtain ⟨inner, rfl, hinner⟩ := place_of_mem_getLast? node hlast
      exact .sibling inner place before others.length last next hinner

end

end Node

/-! ### Glyphs above each other -/

namespace Branch

/-- Whether a line goes down from the glyph. -/
def goesDown (c : Char) : Bool := c == '├' || c == '│'

/-- Whether a line comes down to the glyph. -/
def comesDown (c : Char) : Bool := c == '│' || c == '├' || c == '└'

/-- In every column of the upper branch, a line goes down from its glyph exactly if the lower branch
has a glyph there to which a line comes down. -/
def Meets (above below : List Char) : Prop :=
  ∀ column < above.length, above[column]?.any goesDown = below[column]?.any comesDown

instance (above below : List Char) : Decidable (Meets above below) :=
  inferInstanceAs (Decidable (∀ column < above.length, _))

theorem Meets.append {above above' below below' : List Char} (h : Meets above below)
    (hlength : above.length = below.length) (h' : Meets above' below') :
    Meets (above ++ above') (below ++ below') := by
  intro column hcolumn
  by_cases hlt : column < above.length
  · rw [List.getElem?_append_left hlt, List.getElem?_append_left (hlength ▸ hlt)]
    exact h column hlt
  · have hge : above.length ≤ column := Nat.le_of_not_lt hlt
    rw [List.getElem?_append_right hge, List.getElem?_append_right (hlength ▸ hge), ← hlength]
    refine h' _ ?_
    rw [List.length_append] at hcolumn
    omega

/-- A branch without lines that go down meets the end of a shorter one. -/
theorem meets_nil {above : List Char} (h : ∀ c ∈ above, goesDown c = false) : Meets above [] := by
  intro column hcolumn
  rw [List.getElem?_eq_getElem hcolumn]
  exact h _ (List.getElem_mem hcolumn)

/-- What stands in front of siblings is the same for all of them, and its lines go through. -/
theorem meets_sub (place : Place) :
    Meets (ofPlace place).sub.toList (ofPlace place).sub.toList := by
  intro column hcolumn
  rw [List.getElem?_eq_getElem hcolumn]
  rcases mem_sub place (List.getElem_mem hcolumn) with h | h <;> rw [h] <;> rfl

/-- Below a last child only spaces follow what stands in front of the siblings. -/
theorem exists_sub_append (outer : Place) : (inner : Place) →
    (∀ step ∈ inner, step.isLast = true) →
    ∃ rest, (ofPlace (inner ++ outer)).sub.toList = (ofPlace outer).sub.toList ++ rest ∧
      ∀ c ∈ rest, goesDown c = false
  | [], _ => ⟨[], (List.append_nil _).symm, nofun⟩
  | step :: inner, h => by
    obtain ⟨hstep, hinner⟩ := List.forall_mem_cons.mp h
    obtain ⟨rest, hrest, hdown⟩ := exists_sub_append outer inner hinner
    refine ⟨rest ++ [' ', ' ', ' '], ?_, ?_⟩
    · rw [List.cons_append, ofPlace, toList_sub_below, hrest, hstep, List.append_assoc]
      rfl
    · intro c hc
      rcases List.mem_append.mp hc with hc | hc
      · exact hdown c hc
      · simp at hc
        rw [hc]
        rfl

/-- The line of a last child, or of a last child of one and so on, goes no further down. -/
theorem exists_line_append (outer : Place) {step : Step} {inner : Place}
    (h : ∀ s ∈ step :: inner, s.isLast = true) :
    ∃ rest, (ofPlace (step :: inner ++ outer)).line.toList = (ofPlace outer).sub.toList ++ rest ∧
      ∀ c ∈ rest, goesDown c = false := by
  obtain ⟨hstep, hinner⟩ := List.forall_mem_cons.mp h
  obtain ⟨rest, hrest, hdown⟩ := exists_sub_append outer inner hinner
  refine ⟨rest ++ ['└', '─', '─'], ?_, ?_⟩
  · rw [List.cons_append, ofPlace, toList_line_below, hrest, hstep, List.append_assoc]
    rfl
  · intro c hc
    rcases List.mem_append.mp hc with hc | hc
    · exact hdown c hc
    · simp at hc
      rcases hc with rfl | rfl <;> rfl

/-- No line goes down from the branch of a node that only last children lead to. -/
theorem goesDown_eq_false_of_isLast {place : Place} (h : ∀ step ∈ place, step.isLast = true) :
    ∀ c ∈ (ofPlace place).line.toList, goesDown c = false := by
  cases place with
  | nil => exact nofun
  | cons step inner =>
    obtain ⟨rest, hrest, hdown⟩ := exists_line_append [] h
    rw [List.append_nil] at hrest
    rw [hrest]
    exact hdown

end Branch

namespace Entry

open Branch

/-- The branches of two neighbours meet. -/
theorem Next.meets {e e' : Entry} (h : Next e e') : Meets e.line.toList e'.line.toList := by
  cases h with
  | child place parent child others h =>
    cases place with
    | nil => exact nofun
    | cons step outer =>
      -- the child's branch is drawn behind what the parent's leaves to its children
      have hend (isLast : Bool) : Meets [if step.isLast then '└' else '├', '─', '─']
          ([if step.isLast then ' ' else '│', ' ', ' '] ++
            [if isLast then '└' else '├', '─', '─']) := by
        cases step.isLast <;> cases isLast <;> decide
      rw [line, line, ofPlace, ofPlace, toList_line_below, toList_line_below, ofPlace,
        toList_sub_below, List.append_assoc]
      exact (meets_sub outer).append rfl (hend _)
  | sibling inner outer before after last node h =>
    have hnext (isLast : Bool) : Meets ['├', '─', '─'] [if isLast then '└' else '├', '─', '─'] := by
      cases isLast <;> decide
    cases inner with
    | nil =>
      rw [line, line, List.nil_append, ofPlace, ofPlace, toList_line_below, toList_line_below]
      exact (meets_sub outer).append rfl (hnext _)
    | cons step inner =>
      -- the bar of the tree that has ended here goes on down to the next sibling
      have hbar (isLast : Bool) :
          Meets ['│', ' ', ' '] [if isLast then '└' else '├', '─', '─'] := by
        cases isLast <;> decide
      obtain ⟨rest, hrest, hdown⟩ := exists_line_append (⟨before, after + 1⟩ :: outer) h
      have hmeets := ((meets_sub outer).append rfl (hbar (after == 0))).append (by simp)
        (meets_nil hdown)
      rw [List.append_nil] at hmeets
      rw [line, line, hrest, ofPlace, ofPlace, toList_sub_below, toList_line_below]
      exact hmeets

/-- A branch is at most one step longer than the one above it. -/
theorem Next.length_le {e e' : Entry} (h : Next e e') :
    e'.line.toList.length ≤ e.line.toList.length + 3 := by
  cases h with
  | child => simp only [line, length_line, List.length_cons]; omega
  | sibling => simp only [line, length_line, List.length_cons, List.length_append]; omega

/-- The node is the first child of another. -/
structure IsFirstChild (parent child : Entry) : Prop where
  place : child.place = ⟨0, parent.node.children.length - 1⟩ :: parent.place
  node : parent.node.children.head? = some child.node

/-- A branch that is longer than the one above it leads to a first child. -/
theorem Next.isFirstChild {e e' : Entry} (h : Next e e')
    (hlength : e'.line.toList.length = e.line.toList.length + 3) : IsFirstChild e e' := by
  cases h with
  | child place parent child others h =>
    constructor
    · simp [h]
    · simp [h]
  | sibling =>
    simp only [line, length_line, List.length_cons, List.length_append] at hlength
    omega

/-- A branch starts where the icon stands in the row of the parent. -/
theorem Next.glyph_below_icon {e e' : Entry} (h : Next e e')
    (hlength : e'.line.toList.length = e.line.toList.length + 3) :
    ∃ glyph, e'.line.toList[e.line.toList.length]? = some glyph ∧ (glyph = '├' ∨ glyph = '└') := by
  cases h with
  | child place parent child others h =>
    refine ⟨if (Step.mk 0 others.length).isLast then '└' else '├', ?_, ?_⟩
    · have hline : (Branch.ofPlace place).line.toList.length =
          (Branch.ofPlace place).sub.toList.length := by rw [length_line, length_sub]
      rw [line, line, hline, ofPlace, toList_line_below, List.getElem?_append_right (Nat.le_refl _),
        Nat.sub_self]
      rfl
    · split
      · exact .inr rfl
      · exact .inl rfl
  | sibling =>
    simp only [line, length_line, List.length_cons, List.length_append] at hlength
    omega

/-- In the row of an entry the icon stands right behind the branch. -/
theorem icon_behind_line (p : Painter) (e : Entry) :
    ((e.row p).headD "").toList[e.line.toList.length]? = e.node.kind.icon.toList.head? := by
  obtain ⟨icon, htext⟩ := e.node.kind.exists_icon
  rw [e.toList_headD_row p htext, List.getElem?_append_right (Nat.le_refl _), Nat.sub_self, htext]
  rfl

end Entry

/-! ### The rows of a frame -/

namespace Frame

variable {p : Painter} {root : Node}

/-- The rows below the headings belong to the entries, one to each. -/
theorem exists_entry {i : Nat} {row : List String} (h : (rows p root)[i + 1]? = some row) :
    ∃ e, (root.entries [])[i]? = some e ∧ e.row p = row := by
  rw [rows_eq_map, List.getElem?_cons_succ, List.getElem?_map] at h
  exact Option.map_eq_some_iff.mp h

/-- The last row belongs to the last entry. -/
theorem exists_last_entry {row : List String} (h : (rows p root).getLast? = some row) :
    ∃ e, (root.entries []).getLast? = some e ∧ e.row p = row := by
  rw [rows_eq_map, Node.entries_eq, List.map_cons, List.getLast?_cons_cons, ← List.map_cons,
    ← Node.entries_eq, List.getLast?_map] at h
  exact Option.map_eq_some_iff.mp h

theorem next_of_getElem? {i : Nat} {e e' : Entry} (h : (root.entries [])[i]? = some e)
    (h' : (root.entries [])[i + 1]? = some e') : e.Next e' := by
  obtain ⟨_, rfl⟩ := List.getElem?_eq_some_iff.mp h
  obtain ⟨hlt, rfl⟩ := List.getElem?_eq_some_iff.mp h'
  exact List.IsChain.getElem (Node.isChain_entries [] root) i hlt

/-- **The branches of a frame are connected.** Take any two rows below the headings, one below the
other, and in each what stands in front of the first icon.

* In every column of the upper branch, a line goes down from its glyph exactly if the lower branch
  has a glyph in that column to which a line comes down.
* The lower branch is longer by three characters at most. If it is, then its row is that of the
  first child of the node above, and its glyph stands in the column of that node's icon.
* No line goes down from the last row. -/
theorem branches_connected (p : Painter) (root : Node) :
    (∀ (i : Nat) (above below : List String), (rows p root)[i + 1]? = some above →
      (rows p root)[i + 2]? = some below →
      Branch.Meets (lead above) (lead below) ∧
      (lead below).length ≤ (lead above).length + 3 ∧
      ((lead below).length = (lead above).length + 3 →
        ∃ parent child : Entry, (root.entries [])[i]? = some parent ∧
          (root.entries [])[i + 1]? = some child ∧ parent.row p = above ∧ child.row p = below ∧
          Entry.IsFirstChild parent child ∧
          (above.headD "").toList[(lead above).length]? = parent.node.kind.icon.toList.head? ∧
          ∃ c, (lead below)[(lead above).length]? = some c ∧ (c = '├' ∨ c = '└'))) ∧
    ∀ last, (rows p root).getLast? = some last → '├' ∉ lead last ∧ '│' ∉ lead last := by
  constructor
  · intro i above below habove hbelow
    obtain ⟨e, he, rfl⟩ := exists_entry habove
    obtain ⟨e', he', rfl⟩ := exists_entry hbelow
    have hnext : e.Next e' := next_of_getElem? he he'
    rw [e.lead_row, e'.lead_row]
    refine ⟨hnext.meets, hnext.length_le, fun hlength => ?_⟩
    exact ⟨e, e', he, he', rfl, rfl, hnext.isFirstChild hlength, e.icon_behind_line p,
      hnext.glyph_below_icon hlength⟩
  · intro last hlast
    obtain ⟨e, he, rfl⟩ := exists_last_entry hlast
    obtain ⟨inner, hplace, hinner⟩ := Node.place_of_mem_getLast? root he
    have hdown : ∀ c ∈ e.line.toList, Branch.goesDown c = false := by
      rw [Entry.line, hplace, List.append_nil]
      exact Branch.goesDown_eq_false_of_isLast hinner
    rw [e.lead_row]
    exact ⟨fun h => absurd (hdown _ h) (by decide), fun h => absurd (hdown _ h) (by decide)⟩

/-- The line of the first child goes on past the row below that child. -/
example :
    let older : Node := { kind := .revision, name := "1" }
    let newer : Node := ⟨.revision, "2", none, "", [], [{ kind := .replicaSet, name := "shop-2" }]⟩
    let root : Node := ⟨.rollout, "shop", none, "", [], [newer, older]⟩
    (rows ⟨false⟩ root).tail.map (fun row => String.ofList (lead row)) =
      ["", "├──", "│  └──", "└──"] := by
  decide

end Frame

end RolloutTree
