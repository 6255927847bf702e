import Mathlib.Data.List.Forall2
import RolloutTree.Proofs.Style
import RolloutTree.Proofs.Tree.Places

/-!
# Reading a tree off its rows

The rows of a frame can be read back. A row is cut at its first icon, so that its branch, its kind
and its name are known, and the length of its branch tells how deep its node stands. The tree of a
node goes on as long as the branches are longer than its own, and whether there is a further sibling
is seen from the glyph at the end of the branch. So the first column already determines the shape of
the tree. The status is read from its cell, in colour or not, because every colour takes the same
number of characters; of the tags only the text in which they are joined is known.

## Main definitions

* `Node.Agree`: two trees of the same shape whose nodes are related one by one.

## Main results

* `Node.agree_siblings_of_view`: a view that shows branches determines the shape of trees.
* `Frame.statusCell_injective`: the cell of a status determines it.
* `Frame.rows_determine_tree`: what the rows of a frame determine.
-/

namespace RolloutTree

/-- Two trees of the same shape, in which the nodes at the same place are related. -/
inductive Node.Agree (R : Node → Node → Prop) : Node → Node → Prop
  | node {a b : Node} (root : R a b)
      (children : List.Forall₂ (Node.Agree R) a.children b.children) : Node.Agree R a b

/-! ### The shape of a tree -/

namespace Branch

/-- The branch of a child tells whether it is the last one. -/
theorem isLast_eq_of_line_below {sub : String} {isLast isLast' : Bool}
    (h : (below sub isLast).line = (below sub isLast').line) : isLast = isLast' := by
  have htext := congrArg String.toList h
  rw [toList_line_below, toList_line_below] at htext
  have hglyph := (List.cons.inj (List.append_cancel_left htext)).1
  cases isLast <;> cases isLast' <;> first | rfl | exact absurd hglyph (by decide)

theorem depth_eq_of_sub {p q : Place} (h : (ofPlace p).sub = (ofPlace q).sub) :
    p.length = q.length := by
  have hlength : 3 * p.length = 3 * q.length := by rw [← length_sub, ← length_sub, h]
  omega

/-- The length of a branch tells how deep its node stands. -/
theorem depth_eq_of_line {p q : Place} (h : (ofPlace p).line = (ofPlace q).line) :
    p.length = q.length := by
  have hlength : 3 * p.length = 3 * q.length := by rw [← length_line, ← length_line, h]
  omega

end Branch

namespace Node

/-- The entries start no deeper than that, if there are any. -/
def StartsAbove (depth : Nat) (entries : List Entry) : Prop :=
  ∀ e ∈ entries.head?, e.place.length ≤ depth

theorem StartsAbove.append_siblings {place : Place} {entries : List Entry}
    (h : StartsAbove place.length entries) (before : Nat) (nodes : List Node) :
    StartsAbove (place.length + 1) (siblingEntries place before nodes ++ entries) := by
  intro e he
  cases nodes with
  | nil => exact Nat.le_succ_of_le (h e he)
  | cons node nodes =>
    rw [List.head?_append, head?_siblingEntries, Option.some_or, Option.mem_some_iff] at he
    subst he
    exact Nat.le_refl _

variable {α : Type} {view : Entry → α} {R : Node → Node → Prop}

/-- The trees of siblings do not look like entries that stand no deeper than the parent. -/
theorem StartsAbove.view_ne
    (hview : ∀ e e', view e = view e' → e.line = e'.line ∧ R e.node e'.node)
    {place : Place} {entries : List Entry} (h : StartsAbove place.length entries) (before : Nat)
    (node : Node) (nodes : List Node) (rest : List Entry) :
    entries.map view ≠ (siblingEntries place before (node :: nodes) ++ rest).map view := by
  intro heq
  rw [siblingEntries, entries_eq] at heq
  cases entries with
  | nil => exact nomatch heq
  | cons e entries =>
    obtain ⟨hline, -⟩ := hview _ _ (List.cons.inj heq).1
    have hdepth : e.place.length = place.length + 1 := Branch.depth_eq_of_line hline
    have hle : e.place.length ≤ place.length := h e rfl
    omega

/-- A view of the entries that shows their branches determines the trees of siblings, and where they
end if the entries that follow stand no deeper than the parent. -/
theorem agree_siblings_of_view
    (hview : ∀ e e', view e = view e' → e.line = e'.line ∧ R e.node e'.node) :
    (as bs : List Node) → {p q : Place} → {m n : Nat} → {rest rest' : List Entry} →
    (Branch.ofPlace p).sub = (Branch.ofPlace q).sub →
    StartsAbove p.length rest → StartsAbove q.length rest' →
    (siblingEntries p m as ++ rest).map view = (siblingEntries q n bs ++ rest').map view →
    List.Forall₂ (Agree R) as bs ∧ rest.map view = rest'.map view
  | [], [], _, _, _, _, _, _, _, _, _, h => ⟨.nil, h⟩
  | [], b :: bs, p, q, _, n, rest, rest', hsub, hrest, _, h => by
    rw [StartsAbove, Branch.depth_eq_of_sub hsub] at hrest
    exact absurd h (StartsAbove.view_ne hview hrest n b bs rest')
  | a :: as, [], p, q, m, _, rest, rest', hsub, _, hrest', h => by
    rw [StartsAbove, ← Branch.depth_eq_of_sub hsub] at hrest'
    exact absurd h.symm (StartsAbove.view_ne hview hrest' m a as rest)
  | ⟨kind, name, status, age, info, children⟩ :: as, b :: bs, p, q, m, n, rest, rest', hsub, hrest,
      hrest', h => by
    rw [siblingEntries, siblingEntries, entries_eq, entries_eq, List.append_assoc,
      List.append_assoc] at h
    obtain ⟨hhead, htail⟩ := List.cons.inj h
    obtain ⟨hline, hroot⟩ := hview _ _ hhead
    have hlast : (Step.mk m as.length).isLast = (Step.mk n bs.length).isLast := by
      rw [Entry.line, Entry.line, Branch.ofPlace, Branch.ofPlace, hsub] at hline
      exact Branch.isLast_eq_of_line_below hline
    have hbelow : (Branch.ofPlace (⟨m, as.length⟩ :: p)).sub =
        (Branch.ofPlace (⟨n, bs.length⟩ :: q)).sub := by
      rw [Branch.ofPlace, Branch.ofPlace, hsub, hlast]
    obtain ⟨hchildren, hsiblings⟩ := agree_siblings_of_view hview children b.children hbelow
      (hrest.append_siblings (m + 1) as) (hrest'.append_siblings (n + 1) bs) htail
    obtain ⟨hothers, hend⟩ := agree_siblings_of_view hview as bs hsub hrest hrest' hsiblings
    exact ⟨.cons (.node hroot hchildren) hothers, hend⟩

/-- A view of the entries that shows their branches determines the shape of the tree. -/
theorem agree_of_view
    (hview : ∀ e e', view e = view e' → e.line = e'.line ∧ R e.node e'.node) {a b : Node}
    (h : (a.entries []).map view = (b.entries []).map view) : a.Agree R b := by
  rw [entries_eq, entries_eq] at h
  obtain ⟨hhead, htail⟩ := List.cons.inj h
  have hnil : StartsAbove ([] : Place).length [] := nofun
  obtain ⟨hchildren, -⟩ := agree_siblings_of_view hview a.children b.children
    (p := []) (q := []) rfl hnil hnil (by rwa [List.append_nil, List.append_nil])
  exact .node (hview _ _ hhead).2 hchildren

end Node

/-! ### The cells of a row -/

theorem StatusIcon.glyph_injective : Function.Injective StatusIcon.glyph := by
  intro a b h
  cases a <;> cases b <;> first | rfl | exact absurd h (by decide)

theorem StatusIcon.length_glyph (icon : StatusIcon) : icon.glyph.toList.length = 1 := by
  cases icon <;> rfl

namespace Frame

variable (p : Painter)

/-- A status has a glyph to show, so that its cell is not empty. -/
theorem statusCell_ne_empty (s : Status) : statusCell p (some s) ≠ "" := by
  intro h
  have hspace : ' ' ∈ (statusCell p (some s)).toList := by simp [statusCell]
  rw [h] at hspace
  exact absurd hspace List.not_mem_nil

/-- The cell of a status determines it: the glyph is read first, which takes as many characters in
one cell as in another. -/
theorem statusCell_injective : Function.Injective (statusCell p) := by
  intro s t h
  cases s with
  | none =>
    cases t with
    | none => rfl
    | some t => exact absurd h.symm (statusCell_ne_empty p t)
  | some s =>
    cases t with
    | none => exact absurd h (statusCell_ne_empty p s)
    | some t =>
      have hcell : (p.paintToken s.icon.glyph).toList ++ ' ' :: (p.paintToken s.text).toList =
          (p.paintToken t.icon.glyph).toList ++ ' ' :: (p.paintToken t.text).toList := by
        simpa [statusCell] using congrArg String.toList h
      have hlength : (p.paintToken s.icon.glyph).toList.length =
          (p.paintToken t.icon.glyph).toList.length := by
        rw [Painter.length_paintToken, Painter.length_paintToken, StatusIcon.length_glyph,
          StatusIcon.length_glyph]
      obtain ⟨hglyph, htext⟩ := List.append_inj hcell hlength
      have hicon : s.icon = t.icon :=
        StatusIcon.glyph_injective (p.paintToken_injective (String.toList_inj.mp hglyph))
      have hword : s.text = t.text :=
        p.paintToken_injective (String.toList_inj.mp (List.cons.inj htext).2)
      cases s
      cases t
      cases hicon
      cases hword
      rfl

variable {p}

/-- The first cell of a row determines the branch, the kind and the name. -/
theorem eq_of_head?_row {e e' : Entry} (h : (e.row p).head? = (e'.row p).head?) :
    e.line = e'.line ∧ e.node.kind = e'.node.kind ∧ e.node.name = e'.node.name := by
  obtain ⟨icon, hicon⟩ := e.node.kind.exists_icon
  obtain ⟨icon', hicon'⟩ := e'.node.kind.exists_icon
  have hcell : (e.row p).headD "" = (e'.row p).headD "" := Option.some.inj h
  have hline : e.line.toList = e'.line.toList := by
    rw [← e.lead_row p, ← e'.lead_row p, lead, lead, hcell]
  have htext := congrArg String.toList hcell
  rw [e.toList_headD_row p hicon, e'.toList_headD_row p hicon', hline] at htext
  obtain ⟨rfl, hname⟩ := List.cons.inj (List.append_cancel_left htext)
  have hkind : e.node.kind.icon = e'.node.kind.icon :=
    String.toList_inj.mp (hicon.trans hicon'.symm)
  exact ⟨String.toList_inj.mp hline, Kind.icon_injective hkind, String.toList_inj.mp hname⟩

/-- The row of a node determines its branch and what it shows of the node. -/
theorem eq_of_row {e e' : Entry} (h : e.row p = e'.row p) :
    e.line = e'.line ∧ e.node.kind = e'.node.kind ∧ e.node.name = e'.node.name ∧
      e.node.status = e'.node.status ∧ e.node.age = e'.node.age ∧
      infoCell p e.node.info = infoCell p e'.node.info := by
  obtain ⟨hline, hkind, hname⟩ := eq_of_head?_row (congrArg List.head? h)
  simp only [Entry.row, row, List.cons.injEq] at h
  obtain ⟨-, -, hstatus, hage, hinfo, -⟩ := h
  exact ⟨hline, hkind, hname, statusCell_injective p hstatus, hage, hinfo⟩

/-- **The rows of a frame determine its tree.**

* The first column alone determines the shape of the tree, and the kind and the name of each node.
* All columns determine the status and the age of each node as well, and of its tags the cell in
  which they are joined. -/
theorem rows_determine_tree (p : Painter) (a b : Node) :
    ((rows p a).map List.head? = (rows p b).map List.head? →
      a.Agree (fun m n => m.kind = n.kind ∧ m.name = n.name) b) ∧
    (rows p a = rows p b →
      a.Agree (fun m n => m.kind = n.kind ∧ m.name = n.name ∧ m.status = n.status ∧
        m.age = n.age ∧ infoCell p m.info = infoCell p n.info) b) := by
  rw [rows_eq_map, rows_eq_map]
  constructor
  · intro h
    rw [List.map_cons, List.map_cons, List.map_map, List.map_map] at h
    exact Node.agree_of_view (fun _ _ => eq_of_head?_row) (List.cons.inj h).2
  · intro h
    exact Node.agree_of_view (fun _ _ => eq_of_row) (List.cons.inj h).2

/-- A name that looks like a branch with an icon is read as a name; tags are known as they are
joined, so that one tag with a comma may stand for two. -/
theorem rows_determine_joined_tags :
    rows ⟨false⟩ ⟨.rollout, "└──□", none, "", ["ping,Running"], [{ kind := .pod, name := "α" }]⟩ =
      rows ⟨false⟩ ⟨.rollout, "└──□", none, "", ["ping", "Running"],
        [{ kind := .pod, name := "α" }]⟩ ∧
    Node.Agree (fun m n => m.kind = n.kind ∧ m.name = n.name ∧ m.status = n.status ∧
        m.age = n.age ∧ infoCell ⟨false⟩ m.info = infoCell ⟨false⟩ n.info)
      ⟨.rollout, "└──□", none, "", ["ping,Running"], [{ kind := .pod, name := "α" }]⟩
      ⟨.rollout, "└──□", none, "", ["ping", "Running"], [{ kind := .pod, name := "α" }]⟩ :=
  ⟨by decide, (rows_determine_tree ⟨false⟩ _ _).2 (by decide)⟩

end Frame

end RolloutTree
