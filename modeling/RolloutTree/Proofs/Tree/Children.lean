import Mathlib.Data.List.Forall2
import RolloutTree.Proofs.Cluster.Ownership
import RolloutTree.Tree.Rollout

/-!
# What stands below a rollout

The tree of a rollout shows the objects that belong to it, and no others. Entering the members of a
rollout under their revisions keeps the groups in order, and every group holds the members of its
revision in the order in which they came. Every other node has the objects below it that name its
own object as their owner. Ownership may be circular, but every level of the tree stands for one
kind of step, so that no tree has more than five levels.

## Main definitions

* `Revision.membersOf`: the members of one revision.
* `Revision.Grouped`: the groups hold the members by their revisions.
* `Node.IsOf`, `Snapshot.HasRevision`, `Rollout.IsRevisionNode`: what the nodes stand for.
* `Node.depth`: the number of levels of a tree.

## Main results

* `Revision.Grouped.enter`, `Revision.grouped_groups`: one member entered, and all of them.
* `Rollout.node_shows_owned`: every node has exactly the owned objects below it.
-/

namespace RolloutTree

/-! ### Groups -/

namespace Revision

variable {α β : Type} {members : List (Nat × α)} {groups : List (Nat × List α)}
  {number : Nat} {member : α}

/-- The members of one revision, in their order. -/
def membersOf (members : List (Nat × α)) (number : Nat) : List α :=
  (members.filter (·.1 = number)).map (·.2)

theorem membersOf_append (members others : List (Nat × α)) (number : Nat) :
    membersOf (members ++ others) number = membersOf members number ++ membersOf others number := by
  simp only [membersOf, List.filter_append, List.map_append]

/-- The members of one revision among objects that each have a revision and a view. -/
theorem membersOf_map (revision : β → Nat) (view : β → α) (items : List β) (number : Nat) :
    membersOf (items.map fun item => (revision item, view item)) number =
      (items.filter fun item => revision item = number).map view := by
  rw [membersOf, List.filter_map, List.map_map]
  rfl

theorem membersOf_ne_nil_iff :
    membersOf members number ≠ [] ↔ ∃ member, (number, member) ∈ members := by
  simp only [membersOf, ne_eq, List.map_eq_nil_iff, List.filter_eq_nil_iff, decide_eq_true_iff,
    not_forall, not_not]
  constructor
  · rintro ⟨⟨_, member⟩, hmem, rfl⟩
    exact ⟨member, hmem⟩
  · rintro ⟨member, hmem⟩
    exact ⟨_, hmem, rfl⟩

/-- The groups hold the members by their revisions: one group for each revision that occurs, with
all members of that revision, and the newest revision first. -/
structure Grouped (members : List (Nat × α)) (groups : List (Nat × List α)) : Prop where
  newest : groups.Pairwise fun a b => b.1 < a.1
  mem_iff (number : Nat) (group : List α) :
    (number, group) ∈ groups ↔ group = membersOf members number ∧ group ≠ []

theorem mem_enter_of_ne {other : Nat} (hne : other ≠ number) (group : List α) :
    (groups : List (Nat × List α)) →
      ((other, group) ∈ enter number member groups ↔ (other, group) ∈ groups)
  | [] => by simp [enter, hne]
  | (first, _) :: rest => by
    rw [enter]
    split
    · simp [hne]
    · split
      · rename_i heq
        simp [heq, hne]
      · simp only [List.mem_cons, mem_enter_of_ne hne group rest]

/-- Entering makes one group of the revision longer, or a new one of a single member. -/
theorem mem_enter_self (group : List α) : (groups : List (Nat × List α)) →
    groups.Pairwise (fun a b => b.1 < a.1) →
      ((number, group) ∈ enter number member groups ↔
        (∃ before, (number, before) ∈ groups ∧ group = before ++ [member]) ∨
          (∀ before, (number, before) ∉ groups) ∧ group = [member])
  | [], _ => by simp [enter]
  | (first, old) :: rest, h => by
    obtain ⟨hfirst, hrest⟩ := List.pairwise_cons.mp h
    have hlater {before : List α} (hle : first ≤ number) : (number, before) ∉ rest := fun hmem =>
      absurd (hfirst _ hmem) (Nat.not_lt.mpr hle)
    rw [enter]
    split
    · rename_i hlt
      have hne : number ≠ first := Nat.ne_of_gt hlt
      simp [hlater hlt.le, hne]
    · split
      · rename_i heq
        subst heq
        simp [hlater (Nat.le_refl _)]
      · rename_i hne
        have hne : number ≠ first := fun heq => hne heq.symm
        simp [mem_enter_self group rest hrest, hne]

theorem fst_mem_enter {entry : Nat × List α} :
    (groups : List (Nat × List α)) → entry ∈ enter number member groups →
      entry.1 = number ∨ ∃ old ∈ groups, old.1 = entry.1
  | groups, h => by
    by_cases hne : entry.1 = number
    · exact .inl hne
    · exact .inr ⟨entry, (mem_enter_of_ne hne entry.2 groups).mp h, rfl⟩

theorem newest_enter : (groups : List (Nat × List α)) →
    groups.Pairwise (fun a b => b.1 < a.1) →
      (enter number member groups).Pairwise fun a b => b.1 < a.1
  | [], _ => List.pairwise_singleton _ _
  | (first, old) :: rest, h => by
    obtain ⟨hfirst, hrest⟩ := List.pairwise_cons.mp h
    rw [enter]
    split
    · rename_i hlt
      refine List.pairwise_cons.mpr ⟨fun entry hentry => ?_, h⟩
      rcases List.mem_cons.mp hentry with rfl | hmem
      · exact hlt
      · exact (hfirst entry hmem).trans hlt
    · rename_i hge
      split
      · exact List.pairwise_cons.mpr ⟨hfirst, hrest⟩
      · rename_i hne
        refine List.pairwise_cons.mpr ⟨fun entry hentry => ?_, newest_enter rest hrest⟩
        rcases fst_mem_enter rest hentry with heq | ⟨entry', hmem, heq⟩
        · rw [heq]
          omega
        · rw [← heq]
          exact hfirst entry' hmem

/-- Entering a member keeps the members by their revisions. -/
theorem Grouped.enter (h : Grouped members groups) (number : Nat) (member : α) :
    Grouped (members ++ [(number, member)]) (enter number member groups) := by
  refine ⟨newest_enter groups h.newest, fun other group => ?_⟩
  rw [membersOf_append]
  by_cases hother : other = number
  · subst hother
    have hlast : membersOf [(other, member)] other = [member] := by simp [membersOf]
    rw [mem_enter_self group groups h.newest, hlast]
    simp only [h.mem_iff]
    constructor
    · rintro (⟨before, ⟨rfl, -⟩, rfl⟩ | ⟨hnone, rfl⟩)
      · exact ⟨rfl, by simp⟩
      · have hempty : membersOf members other = [] :=
          Decidable.not_not.mp fun hne => hnone _ ⟨rfl, hne⟩
        exact ⟨by rw [hempty, List.nil_append], by simp⟩
    · rintro ⟨rfl, -⟩
      by_cases hempty : membersOf members other = []
      · refine .inr ⟨?_, by rw [hempty, List.nil_append]⟩
        rintro before ⟨rfl, hne⟩
        exact hne hempty
      · exact .inl ⟨_, ⟨rfl, hempty⟩, rfl⟩
  · have hnone : membersOf [(number, member)] other = [] := by simp [membersOf, Ne.symm hother]
    rw [mem_enter_of_ne hother, h.mem_iff, hnone, List.append_nil]

/-- Entering members one after the other keeps all of them by their revisions. -/
theorem Grouped.foldl : (members : List (Nat × α)) → {entered : List (Nat × α)} →
    {groups : List (Nat × List α)} → Grouped entered groups →
      Grouped (entered ++ members)
        (members.foldl (fun groups (number, member) => Revision.enter number member groups) groups)
  | [], _, _, h => by simpa using h
  | (number, member) :: members, _, _, h => by
    rw [List.foldl_cons, List.append_cons]
    exact Grouped.foldl members (h.enter number member)

/-- The groups hold the members by their revisions. -/
theorem grouped_groups (members : List (Nat × α)) :
    Grouped members (Revision.groups members) := by
  have hnil : Grouped ([] : List (Nat × α)) [] := ⟨.nil, by simp [membersOf]⟩
  exact hnil.foldl members

end Revision

/-! ### Levels -/

mutual

/-- The number of levels of the tree. -/
def Node.depth : Node → Nat
  | ⟨_, _, _, _, _, children⟩ => Node.depths children + 1

/-- The number of levels of the deepest of the trees. -/
def Node.depths : List Node → Nat
  | [] => 0
  | node :: nodes => max node.depth (Node.depths nodes)

end

namespace Node

theorem depths_le {levels : Nat} : (nodes : List Node) → (∀ node ∈ nodes, node.depth ≤ levels) →
    depths nodes ≤ levels
  | [], _ => Nat.zero_le _
  | node :: nodes, h => by
    obtain ⟨hnode, hnodes⟩ := List.forall_mem_cons.mp h
    exact Nat.max_le.mpr ⟨hnode, depths_le nodes hnodes⟩

/-- A tree has one level more than the trees below its root. -/
theorem depth_le {levels : Nat} : (node : Node) →
    (∀ child ∈ node.children, child.depth ≤ levels) → node.depth ≤ levels + 1
  | ⟨_, _, _, _, _, children⟩, h => Nat.succ_le_succ (depths_le children h)

end Node

/-! ### Nodes and the objects that they stand for -/

/-- The node stands for an object of the kind, with the nodes below it. -/
structure Node.IsOf (node : Node) (kind : Kind) (m : Metadata) (children : List Node) : Prop where
  kind : node.kind = kind
  name : node.name = m.name.getD ""
  children : node.children = children

variable (now : Instant) (s : Snapshot)

/-- Some object of the snapshot belongs to the owner and is of the revision. -/
def Snapshot.HasRevision (owner : String) (number : Nat) : Prop :=
  (∃ rs ∈ s.replicaSets, rs.metadata.HasOwner owner ∧ rs.metadata.IsOfRevision number) ∨
    (∃ e ∈ s.experiments, e.metadata.HasOwner owner ∧ e.metadata.IsOfRevision number) ∨
    ∃ run ∈ s.analysisRuns, run.metadata.HasOwner owner ∧ run.metadata.IsOfRevision number

/-- The node stands for the revision of the rollout. Below it are the rollout's replica sets of the
revision, then its experiments, then its analysis runs. -/
def Rollout.IsRevisionNode (r : Rollout) (number : Nat) (node : Node) : Prop :=
  ∃ sets experiments runs,
    Listing ReplicaSet.metadata s.replicaSets
        (fun m => m.HasOwner (r.metadata.uid.getD "") ∧ m.IsOfRevision number) sets ∧
      Listing Experiment.metadata s.experiments
        (fun m => m.HasOwner (r.metadata.uid.getD "") ∧ m.IsOfRevision number) experiments ∧
      Listing AnalysisRun.metadata s.analysisRuns
        (fun m => m.HasOwner (r.metadata.uid.getD "") ∧ m.IsOfRevision number) runs ∧
      node =
        { kind := .revision
          name := "revision:" ++ toString number
          children := sets.map (ReplicaSet.node now (.ofRollout r) s) ++
            experiments.map (Experiment.node now s) ++ runs.map (AnalysisRun.node now s) }

theorem Pod.depth_node (pod : Pod) : (pod.node now).depth ≤ 1 := Node.depth_le _ nofun

theorem Job.depth_node (job : Job) : (job.node now).depth ≤ 1 := Node.depth_le _ nofun

theorem ReplicaSet.depth_node (parts : Parts) (rs : ReplicaSet) :
    (rs.node now parts s).depth ≤ 2 :=
  Node.depth_le _ <| List.forall_mem_map.mpr fun pod _ => pod.depth_node now

theorem AnalysisRun.depth_node (run : AnalysisRun) : (run.node now s).depth ≤ 2 :=
  Node.depth_le _ <| List.forall_mem_map.mpr fun job _ => job.depth_node now

theorem Experiment.depth_node (e : Experiment) : (e.node now s).depth ≤ 3 := by
  refine Node.depth_le _ fun child hchild => ?_
  rcases List.mem_append.mp hchild with h | h
  · obtain ⟨rs, -, rfl⟩ := List.mem_map.mp h
    exact rs.depth_node now s {}
  · obtain ⟨run, -, rfl⟩ := List.mem_map.mp h
    exact run.depth_node now s

namespace Rollout

variable (r : Rollout)

/-- The members of a revision are the replica sets, experiments and analysis runs of the rollout
that are of the revision. -/
theorem isRevisionNode_membersOf (number : Nat) : r.IsRevisionNode now s number
    (Revision.node number (Revision.membersOf (r.members now s) number)) := by
  have listing {α : Type} (metadata : α → Metadata) (listed : List α) :
      Listing metadata listed
        (fun m => m.HasOwner (r.metadata.uid.getD "") ∧ m.IsOfRevision number)
        ((ownedBy metadata listed r.metadata.identity).filter fun item =>
          (metadata item).revision = number) := by
    simp only [Metadata.revision_eq_iff]
    exact (listing_ownedBy metadata listed r.metadata.identity).filter
  refine ⟨_, _, _, listing _ _, listing _ _, listing _ _, ?_⟩
  simp only [Revision.node, members, Revision.membersOf_append, Revision.membersOf_map]
  rfl

/-- A revision has members if some object of it belongs to the rollout. -/
theorem membersOf_ne_nil_iff (number : Nat) : Revision.membersOf (r.members now s) number ≠ [] ↔
    s.HasRevision (r.metadata.uid.getD "") number := by
  have owned {α : Type} (metadata : α → Metadata) (listed : List α) (view : α → Node) :
      (∃ node, (number, node) ∈ (ownedBy metadata listed r.metadata.identity).map fun item =>
          ((metadata item).revision, view item)) ↔
        ∃ item ∈ listed, (metadata item).HasOwner (r.metadata.uid.getD "") ∧
          (metadata item).IsOfRevision number := by
    simp only [List.mem_map, (listing_ownedBy metadata listed _).mem_iff, Prod.mk.injEq,
      Metadata.revision_eq_iff]
    constructor
    · rintro ⟨_, item, ⟨hmem, howner⟩, hrevision, -⟩
      exact ⟨item, hmem, howner, hrevision⟩
    · rintro ⟨item, hmem, howner, hrevision⟩
      exact ⟨_, item, ⟨hmem, howner⟩, hrevision, rfl⟩
  rw [Revision.membersOf_ne_nil_iff]
  simp only [members, List.mem_append, exists_or, or_assoc]
  exact or_congr (owned _ _ _) (or_congr (owned _ _ _) (owned _ _ _))

/-- Below the root stands one node for each revision of an owned object, the newest first. -/
theorem children_node : ∃ numbers : List Nat, numbers.Pairwise (· > ·) ∧
    (∀ number, number ∈ numbers ↔ s.HasRevision (r.metadata.uid.getD "") number) ∧
    List.Forall₂ (r.IsRevisionNode now s) numbers (r.node now s).children ∧
    ∀ child ∈ (r.node now s).children, child.children ≠ [] := by
  have hgrouped := Revision.grouped_groups (r.members now s)
  refine ⟨(Revision.groups (r.members now s)).map (·.1), List.pairwise_map.mpr hgrouped.newest,
    fun number => ?_, ?_, ?_⟩
  · rw [← membersOf_ne_nil_iff now s r, List.mem_map]
    constructor
    · rintro ⟨⟨_, group⟩, hmem, rfl⟩
      obtain ⟨rfl, hne⟩ := (hgrouped.mem_iff _ _).mp hmem
      exact hne
    · intro hne
      exact ⟨_, (hgrouped.mem_iff _ _).mpr ⟨rfl, hne⟩, rfl⟩
  · rw [node, Revision.nodes, List.forall₂_map_left_iff, List.forall₂_map_right_iff,
      List.forall₂_same]
    rintro ⟨number, group⟩ hmem
    obtain ⟨rfl, -⟩ := (hgrouped.mem_iff _ _).mp hmem
    exact r.isRevisionNode_membersOf now s number
  · refine List.forall_mem_map.mpr ?_
    rintro ⟨number, group⟩ hmem
    exact ((hgrouped.mem_iff _ _).mp hmem).2

theorem IsRevisionNode.depth_le {now : Instant} {s : Snapshot} {r : Rollout} {number : Nat}
    {node : Node} (h : r.IsRevisionNode now s number node) : node.depth ≤ 4 := by
  obtain ⟨sets, experiments, runs, -, -, -, rfl⟩ := h
  refine Node.depth_le _ fun member hmember => ?_
  simp only [List.mem_append, List.mem_map] at hmember
  rcases hmember with (⟨rs, -, rfl⟩ | ⟨e, -, rfl⟩) | ⟨run, -, rfl⟩
  · exact (rs.depth_node now s _).trans (by decide)
  · exact e.depth_node now s
  · exact (run.depth_node now s).trans (by decide)

theorem depth_node : (r.node now s).depth ≤ 5 := by
  refine Node.depth_le _ (List.forall_mem_map.mpr ?_)
  rintro ⟨number, group⟩ hmem
  obtain ⟨rfl, -⟩ := ((Revision.grouped_groups (r.members now s)).mem_iff _ _).mp hmem
  exact (r.isRevisionNode_membersOf now s number).depth_le

/-- The tree of a rollout loses and invents nothing.

* Below the root stands one node for each revision of an object that names the rollout as its owner,
  the newest revision first. None of them is empty, and below each stand the rollout's replica sets
  of that revision, then its experiments, then its analysis runs.
* Below a replica set stand its pods, below an experiment its replica sets and then its analysis
  runs, and below an analysis run its jobs. Nothing stands below pods and jobs.
* The objects of one kind stand in the order of their names, each as often as it was listed.
* Whatever the owners are, the tree has at most five levels. -/
theorem node_shows_owned :
    (∃ numbers : List Nat, numbers.Pairwise (· > ·) ∧
      (∀ number, number ∈ numbers ↔ s.HasRevision (r.metadata.uid.getD "") number) ∧
      List.Forall₂ (r.IsRevisionNode now s) numbers (r.node now s).children ∧
      ∀ child ∈ (r.node now s).children, child.children ≠ []) ∧
    (∀ (parts : Parts) (rs : ReplicaSet), ∃ pods,
      Listing Pod.metadata s.pods (·.HasOwner (rs.metadata.uid.getD "")) pods ∧
      (rs.node now parts s).IsOf .replicaSet rs.metadata (pods.map (Pod.node now))) ∧
    (∀ e : Experiment, ∃ sets runs,
      Listing ReplicaSet.metadata s.replicaSets (·.HasOwner (e.metadata.uid.getD "")) sets ∧
      Listing AnalysisRun.metadata s.analysisRuns (·.HasOwner (e.metadata.uid.getD "")) runs ∧
      (e.node now s).IsOf .experiment e.metadata
        (sets.map (ReplicaSet.node now {} s) ++ runs.map (AnalysisRun.node now s))) ∧
    (∀ run : AnalysisRun, ∃ jobs,
      Listing Job.metadata s.jobs (·.HasOwner (run.metadata.uid.getD "")) jobs ∧
      (run.node now s).IsOf .analysisRun run.metadata (jobs.map (Job.node now))) ∧
    (∀ pod : Pod, (pod.node now).IsOf .pod pod.metadata []) ∧
    (∀ job : Job, (job.node now).IsOf .job job.metadata []) ∧
    (r.node now s).depth ≤ 5 := by
  refine ⟨r.children_node now s, fun parts rs => ?_, fun e => ?_, fun run => ?_,
    fun pod => ⟨rfl, rfl, rfl⟩, fun job => ⟨rfl, rfl, rfl⟩, r.depth_node now s⟩
  · exact ⟨_, listing_ownedBy Pod.metadata s.pods _, rfl, rfl, rfl⟩
  · exact ⟨_, _, listing_ownedBy ReplicaSet.metadata s.replicaSets _,
      listing_ownedBy AnalysisRun.metadata s.analysisRuns _, rfl, rfl, rfl⟩
  · exact ⟨_, listing_ownedBy Job.metadata s.jobs _, rfl, rfl, rfl⟩

end Rollout

end RolloutTree
