import Mathlib.Data.List.Nodup
import RolloutTree.Proofs.Cluster.Ownership
import RolloutTree.Tree.Frame
import RolloutTree.Tree.Rollout

/-!
# Trees of a namespace that is listed again

A tree depends on the objects that it shows, and on nothing else in its namespace. The same objects
can be listed again in any order and among any others: as long as none of the others names an owner
that the tree shows, the tree stays the same, and so does the frame that shows it. Objects of one
kind have to have different names, since objects of one name stand in the order in which they were
listed.

## Main definitions

* `Relists`, `Snapshot.Relisted`: objects are listed again, among others without certain owners.
* `Snapshot.HasDistinctNames`: objects of one kind have different names.
* `Experiment.Shows`, `Rollout.Shows`: the owners that a tree shows.
* `Snapshot.AgreesFor`: two snapshots agree on what belongs to certain owners.

## Main results

* `ownedBy_eq_of_relists`: what belongs to an owner stays the same.
* `Snapshot.node_eq_of_relisted`: the trees of rollouts and experiments stay the same.
* `Snapshot.build_eq_of_relisted`: so does what comes of building them.
-/

namespace RolloutTree

variable {α : Type} {metadata : α → Metadata} {owners : String → Prop}

/-! ### Objects that are listed again -/

/-- The objects are listed again, in any order and among any further objects that do not name one of
the owners. -/
def Relists (metadata : α → Metadata) (owners : String → Prop) (listed again : List α) : Prop :=
  ∃ further, again.Perm (listed ++ further) ∧
    ∀ item ∈ further, ∀ owner, owners owner → ¬(metadata item).HasOwner owner

/-- What belongs to one of the owners stays the same, object for object and in the same order. -/
theorem ownedBy_eq_of_relists {listed again : List α}
    (hnames : (listed.map fun item => (metadata item).name).Nodup)
    (h : Relists metadata owners listed again) {owner : String} (howner : owners owner) :
    ownedBy metadata again owner = ownedBy metadata listed owner := by
  obtain ⟨further, hperm, hfurther⟩ := h
  have hnone : (further.filter fun item => (metadata item).HasOwner owner) = [] :=
    List.filter_eq_nil_iff.mpr fun item hitem => by simpa using hfurther item hitem owner howner
  have hfilter := hperm.filter fun item => decide ((metadata item).HasOwner owner)
  rw [List.filter_append, hnone, List.append_nil] at hfilter
  have hagain := listing_ownedBy metadata again owner
  have hlisted := listing_ownedBy metadata listed owner
  have hsame := (hagain.perm.trans hfilter).trans hlisted.perm.symm
  -- with distinct names, the order of the names leaves no choice
  refine hsame.eq_of_pairwise ?_ hagain.ordered hlisted.ordered
  intro a b ha hb hab hba
  have ha := (hlisted.mem_iff.mp (hsame.mem_iff.mp ha)).1
  have hb := (hlisted.mem_iff.mp hb).1
  exact List.inj_on_of_nodup_map hnames ha hb (nameLE_antisymm _ _ hab hba)

namespace Snapshot

variable {s again : Snapshot}

/-- Objects of one kind have different names; at most one of each kind has none. -/
structure HasDistinctNames (s : Snapshot) : Prop where
  replicaSets : (s.replicaSets.map (·.metadata.name)).Nodup
  pods : (s.pods.map (·.metadata.name)).Nodup
  jobs : (s.jobs.map (·.metadata.name)).Nodup
  experiments : (s.experiments.map (·.metadata.name)).Nodup
  analysisRuns : (s.analysisRuns.map (·.metadata.name)).Nodup

/-- The objects of every kind are listed again, among others that do not name one of the owners. -/
structure Relisted (s : Snapshot) (owners : String → Prop) (again : Snapshot) : Prop where
  replicaSets : Relists ReplicaSet.metadata owners s.replicaSets again.replicaSets
  pods : Relists Pod.metadata owners s.pods again.pods
  jobs : Relists Job.metadata owners s.jobs again.jobs
  experiments : Relists Experiment.metadata owners s.experiments again.experiments
  analysisRuns : Relists AnalysisRun.metadata owners s.analysisRuns again.analysisRuns

/-- The snapshots agree on what belongs to each of the owners. -/
structure AgreesFor (s : Snapshot) (owners : String → Prop) (again : Snapshot) : Prop where
  replicaSets {owner : String} (h : owners owner) :
    again.replicaSetsOf owner = s.replicaSetsOf owner
  pods {owner : String} (h : owners owner) : again.podsOf owner = s.podsOf owner
  jobs {owner : String} (h : owners owner) : again.jobsOf owner = s.jobsOf owner
  experiments {owner : String} (h : owners owner) :
    again.experimentsOf owner = s.experimentsOf owner
  analysisRuns {owner : String} (h : owners owner) :
    again.analysisRunsOf owner = s.analysisRunsOf owner

theorem Relisted.agreesFor (h : s.Relisted owners again) (hnames : s.HasDistinctNames) :
    s.AgreesFor owners again where
  replicaSets := ownedBy_eq_of_relists hnames.replicaSets h.replicaSets
  pods := ownedBy_eq_of_relists hnames.pods h.pods
  jobs := ownedBy_eq_of_relists hnames.jobs h.jobs
  experiments := ownedBy_eq_of_relists hnames.experiments h.experiments
  analysisRuns := ownedBy_eq_of_relists hnames.analysisRuns h.analysisRuns

end Snapshot

/-! ### The owners that a tree shows -/

/-- A replica set or an analysis run of the owner has the identity. -/
def Snapshot.HasBelow (s : Snapshot) (owner uid : String) : Prop :=
  (∃ rs ∈ s.replicaSets, rs.metadata.HasOwner owner ∧ rs.metadata.identity = uid) ∨
    ∃ run ∈ s.analysisRuns, run.metadata.HasOwner owner ∧ run.metadata.identity = uid

/-- The experiment has the identity, or a replica set or an analysis run in its tree has it. -/
def Experiment.Shows (s : Snapshot) (e : Experiment) (uid : String) : Prop :=
  e.metadata.identity = uid ∨ s.HasBelow e.metadata.identity uid

/-- The rollout has the identity, or a replica set, an analysis run or an experiment in its tree has
it. -/
def Rollout.Shows (s : Snapshot) (r : Rollout) (uid : String) : Prop :=
  r.metadata.identity = uid ∨ s.HasBelow r.metadata.identity uid ∨
    ∃ e ∈ s.experiments, e.metadata.HasOwner r.metadata.identity ∧ e.Shows s uid

/-! ### Nodes -/

variable {s again : Snapshot} (now : Instant)

theorem ReplicaSet.node_congr (h : s.AgreesFor owners again) (parts : Parts) {rs : ReplicaSet}
    (hrs : owners rs.metadata.identity) : rs.node now parts again = rs.node now parts s := by
  rw [node, node, h.pods hrs]

theorem AnalysisRun.node_congr (h : s.AgreesFor owners again) {run : AnalysisRun}
    (hrun : owners run.metadata.identity) : run.node now again = run.node now s := by
  rw [node, node, h.jobs hrun]

/-- What belongs to a shown owner is the same, and so are its nodes. -/
theorem map_ownedBy_congr {β : Type} {listed again : List α} {owner : String} {view other : α → β}
    (h : ownedBy metadata again owner = ownedBy metadata listed owner)
    (hview : ∀ item ∈ listed, (metadata item).HasOwner owner → other item = view item) :
    (ownedBy metadata again owner).map other = (ownedBy metadata listed owner).map view := by
  rw [h]
  refine List.map_congr_left fun item hitem => ?_
  obtain ⟨hmem, howner⟩ := (listing_ownedBy metadata listed owner).mem_iff.mp hitem
  exact hview item hmem howner

theorem Experiment.node_congr (h : s.AgreesFor owners again) {e : Experiment}
    (he : ∀ uid, e.Shows s uid → owners uid) : e.node now again = e.node now s := by
  have hself : owners e.metadata.identity := he _ (Or.inl rfl)
  have hsets : (again.replicaSetsOf e.metadata.identity).map (ReplicaSet.node now {} again) =
      (s.replicaSetsOf e.metadata.identity).map (ReplicaSet.node now {} s) := by
    refine map_ownedBy_congr (h.replicaSets hself) fun rs hmem howner => ?_
    exact rs.node_congr now h {} (he _ (Or.inr (Or.inl ⟨rs, hmem, howner, rfl⟩)))
  have hruns : (again.analysisRunsOf e.metadata.identity).map (AnalysisRun.node now again) =
      (s.analysisRunsOf e.metadata.identity).map (AnalysisRun.node now s) := by
    refine map_ownedBy_congr (h.analysisRuns hself) fun run hmem howner => ?_
    exact run.node_congr now h (he _ (Or.inr (Or.inr ⟨run, hmem, howner, rfl⟩)))
  rw [node, node, hsets, hruns]

theorem Rollout.members_congr (h : s.AgreesFor owners again) {r : Rollout}
    (hr : ∀ uid, r.Shows s uid → owners uid) : r.members now again = r.members now s := by
  have hself : owners r.metadata.identity := hr _ (Or.inl rfl)
  refine congrArg₂ (· ++ ·) (congrArg₂ (· ++ ·) ?_ ?_) ?_
  · refine map_ownedBy_congr (h.replicaSets hself) fun rs hmem howner => ?_
    rw [rs.node_congr now h _ (hr _ (Or.inr (Or.inl (Or.inl ⟨rs, hmem, howner, rfl⟩))))]
  · refine map_ownedBy_congr (h.experiments hself) fun e hmem howner => ?_
    rw [e.node_congr now h fun uid hshown => hr uid (Or.inr (Or.inr ⟨e, hmem, howner, hshown⟩))]
  · refine map_ownedBy_congr (h.analysisRuns hself) fun run hmem howner => ?_
    rw [run.node_congr now h (hr _ (Or.inr (Or.inl (Or.inr ⟨run, hmem, howner, rfl⟩))))]

theorem Rollout.node_congr (h : s.AgreesFor owners again) {r : Rollout}
    (hr : ∀ uid, r.Shows s uid → owners uid) : r.node now again = r.node now s := by
  rw [node, node, r.members_congr now h hr]

/-- **A tree depends on what it shows.** Let the objects of each kind have different names, and list
them again in any order, among any further objects. The tree of a rollout stays the same if no
further object names the rollout as an owner, or a replica set, an experiment or an analysis run
that the tree shows; and so does the tree of an experiment. The frames that show the trees stay the
same as well. -/
theorem Snapshot.node_eq_of_relisted (s again : Snapshot) (hnames : s.HasDistinctNames) :
    (∀ r : Rollout, s.Relisted (r.Shows s) again →
      r.node now again = r.node now s ∧
      ∀ p : Painter, Frame.text p (r.node now again) = Frame.text p (r.node now s)) ∧
    ∀ e : Experiment, s.Relisted (e.Shows s) again →
      e.node now again = e.node now s ∧
      ∀ p : Painter, Frame.text p (e.node now again) = Frame.text p (e.node now s) := by
  constructor
  · intro r h
    have hnode := r.node_congr now (h.agreesFor hnames) fun _ hshown => hshown
    exact ⟨hnode, fun p => by rw [hnode]⟩
  · intro e h
    have hnode := e.node_congr now (h.agreesFor hnames) fun _ hshown => hshown
    exact ⟨hnode, fun p => by rw [hnode]⟩

/-- Two replica sets in the other order, with one of another owner between them, and the pods
likewise. -/
theorem Snapshot.node_eq_of_reversed_lists :
    let named (name uid owner : String) : Metadata :=
      { name := some name, uid := some uid, owners := [owner] }
    let r : Rollout := { metadata := { name := some "guestbook", uid := some "ro" } }
    let first : ReplicaSet := { metadata := named "a" "rs-1" "ro" }
    let second : ReplicaSet := { metadata := named "b" "rs-2" "ro" }
    let other : ReplicaSet := { metadata := named "a" "rs-3" "other" }
    let e : Experiment := { metadata := named "e" "exp" "ro" }
    let pod : Pod := { metadata := named "a-1" "pod-1" "rs-1" }
    let stray : Pod := { metadata := named "a-1" "pod-3" "rs-3" }
    let s : Snapshot :=
      { replicaSets := [second, first], pods := [pod], experiments := [e] }
    let again : Snapshot :=
      { replicaSets := [first, other, second], pods := [stray, pod], experiments := [e] }
    s.HasDistinctNames ∧ s.Relisted (r.Shows s) again ∧
      r.node ⟨0, 0, 0⟩ again = r.node ⟨0, 0, 0⟩ s := by
  intro named r first second other e pod stray s again
  have hnames : s.HasDistinctNames :=
    ⟨by decide, by decide, by decide, by decide, by decide⟩
  have hlisted : s.Relisted (r.Shows s) again := by
    have hother (owner : String) (h : owner = "other" ∨ owner = "rs-3") : ¬r.Shows s owner := by
      rcases h with rfl | rfl <;>
        simp [Rollout.Shows, Experiment.Shows, HasBelow, Metadata.HasOwner, Metadata.identity, r, s,
          first, second, e, named]
    refine ⟨⟨[other], by decide, ?_⟩, ⟨[stray], by decide, ?_⟩, ⟨[], by simp [s, again], by simp⟩,
      ⟨[], by simp [s, again], by simp⟩, ⟨[], by simp [s, again], by simp⟩⟩
    · rintro item hitem owner hshown howner
      obtain rfl := List.mem_singleton.mp hitem
      exact hother owner (Or.inl (List.mem_singleton.mp howner)) hshown
    · rintro item hitem owner hshown howner
      obtain rfl := List.mem_singleton.mp hitem
      exact hother owner (Or.inr (List.mem_singleton.mp howner)) hshown
  exact ⟨hnames, hlisted, ((Snapshot.node_eq_of_relisted ⟨0, 0, 0⟩ s again hnames).1 r hlisted).1⟩

/-! ### Building -/

/-- What belongs to a shown owner is the same, and so is what comes of checking it. -/
theorem forM_ownedBy_congr {listed again : List α} {owner : String}
    {check other : α → Except Crash Unit}
    (h : ownedBy metadata again owner = ownedBy metadata listed owner)
    (hcheck : ∀ item ∈ listed, (metadata item).HasOwner owner → other item = check item) :
    (ownedBy metadata again owner).forM other = (ownedBy metadata listed owner).forM check := by
  have hforM (items : List α) (hitems : ∀ item ∈ items, other item = check item) :
      items.forM other = items.forM check := by
    induction items with
    | nil => rfl
    | cons item items ih =>
      obtain ⟨hitem, hitems⟩ := List.forall_mem_cons.mp hitems
      change (other item >>= fun _ => items.forM other) = (check item >>= fun _ => items.forM check)
      rw [hitem, ih hitems]
  rw [h]
  refine hforM _ fun item hitem => ?_
  obtain ⟨hmem, howner⟩ := (listing_ownedBy metadata listed owner).mem_iff.mp hitem
  exact hcheck item hmem howner

theorem ReplicaSet.addUp_congr (h : s.AgreesFor owners again) {rs : ReplicaSet}
    (hrs : owners rs.metadata.identity) : rs.addUp again = rs.addUp s := by
  rw [addUp, addUp, h.pods hrs]

theorem Experiment.addUp_congr (h : s.AgreesFor owners again) {e : Experiment}
    (he : ∀ uid, e.Shows s uid → owners uid) : e.addUp again = e.addUp s := by
  have hself : owners e.metadata.identity := he _ (Or.inl rfl)
  have hsets : (again.replicaSetsOf e.metadata.identity).forM (ReplicaSet.addUp again) =
      (s.replicaSetsOf e.metadata.identity).forM (ReplicaSet.addUp s) := by
    refine forM_ownedBy_congr (h.replicaSets hself) fun rs hmem howner => ?_
    exact rs.addUp_congr h (he _ (Or.inr (Or.inl ⟨rs, hmem, howner, rfl⟩)))
  rw [addUp, addUp, hsets, h.analysisRuns hself]

theorem Rollout.addUp_congr (h : s.AgreesFor owners again) {r : Rollout}
    (hr : ∀ uid, r.Shows s uid → owners uid) : r.addUp again = r.addUp s := by
  have hself : owners r.metadata.identity := hr _ (Or.inl rfl)
  have hsets : (again.replicaSetsOf r.metadata.identity).forM (ReplicaSet.addUp again) =
      (s.replicaSetsOf r.metadata.identity).forM (ReplicaSet.addUp s) := by
    refine forM_ownedBy_congr (h.replicaSets hself) fun rs hmem howner => ?_
    exact rs.addUp_congr h (hr _ (Or.inr (Or.inl (Or.inl ⟨rs, hmem, howner, rfl⟩))))
  have hexperiments : (again.experimentsOf r.metadata.identity).forM (Experiment.addUp again) =
      (s.experimentsOf r.metadata.identity).forM (Experiment.addUp s) := by
    refine forM_ownedBy_congr (h.experiments hself) fun e hmem howner => ?_
    exact e.addUp_congr h fun uid hshown => hr uid (Or.inr (Or.inr ⟨e, hmem, howner, hshown⟩))
  rw [addUp, addUp, hsets, hexperiments, h.analysisRuns hself]

/-- Where the tree of a rollout or an experiment depends on what it shows, so does what comes of
building it: the same tree, or the same crash. -/
theorem Snapshot.build_eq_of_relisted (s again : Snapshot) (hnames : s.HasDistinctNames) :
    (∀ r : Rollout, s.Relisted (r.Shows s) again → r.build now again = r.build now s) ∧
    ∀ e : Experiment, s.Relisted (e.Shows s) again → e.build now again = e.build now s := by
  constructor
  · intro r h
    have hagree := h.agreesFor hnames
    rw [Rollout.build, Rollout.build, r.addUp_congr hagree fun _ hshown => hshown,
      r.node_congr now hagree fun _ hshown => hshown]
  · intro e h
    have hagree := h.agreesFor hnames
    rw [Experiment.build, Experiment.build, e.addUp_congr hagree fun _ hshown => hshown,
      e.node_congr now hagree fun _ hshown => hshown]

end RolloutTree
