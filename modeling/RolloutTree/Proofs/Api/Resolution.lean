import Mathlib.Data.List.Nodup
import RolloutTree.Api.Discovery

/-!
# Which kind a name stands for

A look-up goes through the groups and through the kinds of each group, and neither come in a
particular order. The group is no matter of the order: it is the one whose name comes first of those
that offer a kind with the name. In that group there may be several such kinds, since a kind may
have the plural of another, or a name that differs in case only. Then each of them is found on some
way through the groups, whatever their versions are. So the order does not matter exactly if there
is one kind with the name in that group.

A group offers each kind in its most preferred version, and the name is only compared with that one.
So a kind is not found by a plural that other versions of it have, unless all versions have one.

Nothing is assumed of the names of the groups; if two groups have one name, the kinds of both count.

## Main definitions

* `Group.IsBest`, `Group.Offers`: a kind in its most preferred version, and with the name.
* `IsChoice`: a kind with the name in the first group that has one.
* `Tour.Visits`: the tour goes through the groups.

## Main results

* `Group.isBest_of_mem_kinds`, `Group.nodup_kinds`, `Group.exists_mem_kinds`: each kind of a group
  is there once, in its most preferred version.
* `Tour.Visits.isChoice`, `exists_visits_of_isChoice`: what is found on the ways through the groups.
* `resolve_agrees_iff`: when the same kind is found on all of them.
* `not_forall_resolve_agrees`: there are groups in which the order matters, and groups in which a
  kind is not found by the plural that one of its versions has.
-/

namespace RolloutTree.Api

/-! ### Versions -/

namespace Version

theorem rankLE_trans {a b c : Nat × Nat × Nat} (hab : rankLE a b = true) (hbc : rankLE b c = true) :
    rankLE a c = true := by
  simp only [rankLE, Bool.or_eq_true, Bool.and_eq_true, decide_eq_true_eq] at *
  omega

theorem rankLE_total (a b : Nat × Nat × Nat) : rankLE a b = true ∨ rankLE b a = true := by
  simp only [rankLE, Bool.or_eq_true, Bool.and_eq_true, decide_eq_true_eq]
  omega

/-- A version that is preferred to another does not rank below it. -/
theorem rankLE_of_isPreferred {a b : Version} (h : a.isPreferred b = true) :
    rankLE b.rank a.rank = true := by
  cases a with
  | other a =>
    cases b with
    | other b => rfl
    | _ => exact h
  | _ => cases b <;> exact h

theorem isPreferred_trans {a b c : Version} (hab : a.isPreferred b = true)
    (hbc : b.isPreferred c = true) : a.isPreferred c = true := by
  have hrank : rankLE c.rank a.rank = true :=
    rankLE_trans (rankLE_of_isPreferred hbc) (rankLE_of_isPreferred hab)
  cases a with
  | other a =>
    cases c with
    | other c =>
      -- between two versions with other names there is no version with a number
      cases b with
      | other b =>
        exact decide_eq_true (String.le_trans (of_decide_eq_true hab) (of_decide_eq_true hbc))
      | _ => simp [isPreferred, rankLE, rank] at hab
    | _ => exact hrank
  | _ => cases c <;> exact hrank

theorem isPreferred_total (a b : Version) :
    (a.isPreferred b || b.isPreferred a) = true := by
  have hrank : (rankLE b.rank a.rank || rankLE a.rank b.rank) = true :=
    Bool.or_eq_true_iff.mpr (rankLE_total b.rank a.rank)
  cases a with
  | other a =>
    cases b with
    | other b => simpa [isPreferred] using String.le_total a b
    | _ => exact hrank
  | _ => cases b <;> exact hrank

end Version

/-! ### The kinds of a group -/

theorem nodup_eraseDups {α : Type} [BEq α] [LawfulBEq α] : ∀ l : List α, l.eraseDups.Nodup
  | [] => List.nodup_nil
  | a :: l => by
    rw [List.eraseDups_cons, List.nodup_cons]
    exact ⟨by simp, nodup_eraseDups _⟩
termination_by l => l.length
decreasing_by exact Nat.lt_succ_of_le (List.length_filter_le _ _)

namespace Group

variable {g : Group} {name kind : String} {s t : Served}

/-- The group has the kind in this version, and in none that is preferred to it. -/
def IsBest (g : Group) (s : Served) : Prop :=
  s ∈ g.all ∧ ∀ t ∈ g.all, t.resource.kind = s.resource.kind →
    (Version.parse s.resource.version).isPreferred (.parse t.resource.version) = true

/-- The group has the kind, and the name stands for it. -/
def Offers (g : Group) (name : String) (s : Served) : Prop :=
  s ∈ g.kinds ∧ s.resource.isNamed name = true

theorem mem_of_best? (h : g.best? kind = some s) : s ∈ g.all ∧ s.resource.kind = kind := by
  have hmem := List.mem_of_head? h
  rw [List.mem_mergeSort, List.mem_filter] at hmem
  exact ⟨hmem.1, of_decide_eq_true hmem.2⟩

/-- A kind is offered in its most preferred version. -/
theorem isBest_of_best? (h : g.best? kind = some s) : g.IsBest s := by
  obtain ⟨hmem, hkind⟩ := mem_of_best? h
  refine ⟨hmem, fun t ht hsame => ?_⟩
  have hsorted : List.Pairwise (fun a b : Served =>
      (Version.parse a.resource.version).isPreferred (.parse b.resource.version) = true)
      ((g.all.filter (·.resource.kind = kind)).mergeSort fun a b =>
        (Version.parse a.resource.version).isPreferred (.parse b.resource.version)) := by
    apply List.pairwise_mergeSort
    · intro a b c
      exact Version.isPreferred_trans
    · intro a b
      exact Version.isPreferred_total _ _
  obtain ⟨rest, hrest⟩ := List.head?_eq_some_iff.mp h
  rw [hrest, List.pairwise_cons] at hsorted
  have ht : t ∈ s :: rest := by
    rw [← hrest, List.mem_mergeSort, List.mem_filter]
    exact ⟨ht, decide_eq_true (hsame.trans hkind)⟩
  rcases List.mem_cons.mp ht with rfl | ht
  · exact (Bool.or_self _).symm.trans (Version.isPreferred_total _ _)
  · exact hsorted.1 t ht

theorem best?_isSome (ht : t ∈ g.all) : (g.best? t.resource.kind).isSome = true := by
  refine List.isSome_head?.mpr (List.ne_nil_of_mem (a := t) ?_)
  rw [List.mem_mergeSort, List.mem_filter]
  exact ⟨ht, decide_eq_true rfl⟩

theorem isBest_of_mem_kinds (hs : s ∈ g.kinds) : g.IsBest s := by
  obtain ⟨kind, -, hbest⟩ := List.mem_filterMap.mp hs
  exact isBest_of_best? hbest

/-- Every kind of a group is among those that it offers. -/
theorem exists_mem_kinds (ht : t ∈ g.all) : ∃ s ∈ g.kinds, s.resource.kind = t.resource.kind := by
  obtain ⟨s, hbest⟩ := Option.isSome_iff_exists.mp (best?_isSome ht)
  refine ⟨s, List.mem_filterMap.mpr ⟨t.resource.kind, ?_, hbest⟩, (mem_of_best? hbest).2⟩
  rw [List.mem_mergeSort, List.mem_eraseDups]
  exact List.mem_map_of_mem ht

/-- A kind is found by its plural if all versions of it have that plural. -/
theorem exists_offers (hs : s ∈ g.all) (hnamed : s.resource.isNamed name = true)
    (hplural : ∀ t ∈ g.all, t.resource.kind = s.resource.kind →
      t.resource.plural = s.resource.plural) :
    ∃ t, g.Offers name t ∧ t.resource.kind = s.resource.kind := by
  obtain ⟨t, ht, hkind⟩ := exists_mem_kinds hs
  refine ⟨t, ⟨ht, ?_⟩, hkind⟩
  rw [Resource.isNamed, hkind, hplural t (isBest_of_mem_kinds ht).1 hkind]
  exact hnamed

/-- No kind of a group is offered twice. -/
theorem nodup_kinds (g : Group) : (g.kinds.map (·.resource.kind)).Nodup := by
  have hnames := (List.mergeSort_perm (g.all.map (·.resource.kind)).eraseDups
    fun a b => decide (a ≤ b)).nodup_iff.mpr (nodup_eraseDups _)
  rw [List.Nodup, kinds, List.pairwise_map, List.pairwise_filterMap]
  refine hnames.imp fun {a b} hne s hs t ht heq => hne ?_
  rw [← (mem_of_best? hs).2, ← (mem_of_best? ht).2, heq]

end Group

/-! ### The entry whose name comes first -/

section Earliest

variable {e : String × Served} {l : List (String × Served)}

theorem earlier_eq_or (a b : String × Served) : earlier a b = a ∨ earlier a b = b := by
  rw [earlier]
  split
  · exact .inr rfl
  · exact .inl rfl

theorem earlier_le (a b : String × Served) : (earlier a b).1 ≤ a.1 ∧ (earlier a b).1 ≤ b.1 := by
  rw [earlier]
  split
  case isTrue h => exact ⟨String.not_lt.mp (String.lt_asymm h), String.le_refl _⟩
  case isFalse h => exact ⟨String.le_refl _, String.not_lt.mp h⟩

theorem foldl_earlier_mem (e : String × Served) (l : List (String × Served)) :
    l.foldl earlier e ∈ e :: l := by
  induction l generalizing e with
  | nil => exact List.mem_singleton_self e
  | cons x l ih =>
    rw [List.foldl_cons]
    rcases List.mem_cons.mp (ih (earlier e x)) with heq | hmem
    · rw [heq]
      rcases earlier_eq_or e x with hor | hor <;> simp [hor]
    · exact List.mem_cons_of_mem e (List.mem_cons_of_mem x hmem)

theorem foldl_earlier_le (e : String × Served) (l : List (String × Served)) :
    ∀ x ∈ e :: l, (l.foldl earlier e).1 ≤ x.1 := by
  induction l generalizing e with
  | nil =>
    intro x hx
    obtain rfl := List.mem_singleton.mp hx
    exact String.le_refl _
  | cons y l ih =>
    have hfirst := ih (earlier e y) _ List.mem_cons_self
    intro x hx
    rw [List.foldl_cons]
    rcases List.mem_cons.mp hx with rfl | hx
    · exact String.le_trans hfirst (earlier_le x y).1
    rcases List.mem_cons.mp hx with rfl | hx
    · exact String.le_trans hfirst (earlier_le e x).2
    · exact ih _ x (List.mem_cons_of_mem _ hx)

theorem earliest?_eq_none_iff : earliest? l = none ↔ l = [] := by
  cases l with
  | nil => exact iff_of_true rfl rfl
  | cons x l => exact iff_of_false (Option.some_ne_none _) (List.cons_ne_nil x l)

/-- What comes first is an entry, and no name comes before its name. -/
theorem first_of_earliest? (h : earliest? l = some e) : e ∈ l ∧ ∀ x ∈ l, e.1 ≤ x.1 := by
  cases l with
  | nil => exact absurd h.symm (Option.some_ne_none e)
  | cons x l =>
    obtain rfl := Option.some.inj h
    exact ⟨foldl_earlier_mem x l, foldl_earlier_le x l⟩

/-- Of several entries whose name comes first, the one that is met first is found. -/
theorem earliest?_cons_of_le (h : ∀ x ∈ l, e.1 ≤ x.1) : earliest? (e :: l) = some e := by
  refine congrArg some ?_
  induction l with
  | nil => rfl
  | cons x l ih =>
    have hx : ¬ x.1 < e.1 := String.not_lt.mpr (h x List.mem_cons_self)
    rw [List.foldl_cons, earlier, if_neg hx]
    exact ih fun y hy => h y (List.mem_cons_of_mem x hy)

end Earliest

/-! ### Ways through groups -/

variable {groups : List Group} {name group : String} {s : Served}

/-- The kind has the name, and it is in the first of the groups that have kinds with the name. -/
def IsChoice (groups : List Group) (name : String) (s : Served) : Prop :=
  ∃ g ∈ groups, g.Offers name s ∧ ∀ h ∈ groups, (∃ t, h.Offers name t) → g.name ≤ h.name

/-- The tour goes through all groups, in some order, and through all kinds of each, in some
order. -/
def Tour.Visits (tour : Tour) (groups : List Group) : Prop :=
  ∃ stops : List (Group × List Served), (stops.map (·.1)).Perm groups ∧
    (∀ stop ∈ stops, stop.2.Perm stop.1.kinds) ∧ tour = stops.map fun stop => (stop.1.name, stop.2)

theorem visits_tour (groups : List Group) : (tour groups).Visits groups := by
  refine ⟨groups.map fun g => (g, g.kinds), ?_, ?_, ?_⟩
  · simp [Function.comp_def]
  · simp
  · simp [tour]

namespace Tour

variable {tour : Tour}

theorem mem_matching :
    (group, s) ∈ tour.matching name ↔
      ∃ kinds, (group, kinds) ∈ tour ∧ s ∈ kinds ∧ s.resource.isNamed name = true := by
  constructor
  · intro h
    obtain ⟨⟨group', kinds⟩, hstop, h⟩ := List.mem_flatMap.mp h
    obtain ⟨t, ht, heq⟩ := List.mem_map.mp h
    obtain ⟨rfl, rfl⟩ := Prod.mk.inj heq
    exact ⟨kinds, hstop, List.mem_filter.mp ht⟩
  · rintro ⟨kinds, hstop, hmem⟩
    exact List.mem_flatMap.mpr
      ⟨(group, kinds), hstop, List.mem_map_of_mem (List.mem_filter.mpr hmem)⟩

/-- Every tour meets the same kinds with the name. -/
theorem Visits.mem_matching (h : tour.Visits groups) :
    (group, s) ∈ tour.matching name ↔ ∃ g ∈ groups, g.name = group ∧ g.Offers name s := by
  obtain ⟨stops, hgroups, hkinds, rfl⟩ := h
  rw [Tour.mem_matching]
  constructor
  · rintro ⟨kinds, hmem, hs, hnamed⟩
    obtain ⟨stop, hstop, heq⟩ := List.mem_map.mp hmem
    obtain ⟨rfl, rfl⟩ := Prod.mk.inj heq
    exact ⟨stop.1, hgroups.mem_iff.mp (List.mem_map_of_mem hstop), rfl,
      (hkinds stop hstop).mem_iff.mp hs, hnamed⟩
  · rintro ⟨g, hg, rfl, hs, hnamed⟩
    obtain ⟨stop, hstop, rfl⟩ := List.mem_map.mp (hgroups.mem_iff.mpr hg)
    exact ⟨stop.2, List.mem_map.mpr ⟨stop, hstop, rfl⟩, (hkinds stop hstop).mem_iff.mpr hs, hnamed⟩

/-- Nothing is found exactly if no group has a kind with the name. -/
theorem Visits.resolve_eq_none_iff (h : tour.Visits groups) :
    tour.resolve name = none ↔ ∀ g ∈ groups, ∀ s, ¬ g.Offers name s := by
  rw [resolve, Option.map_eq_none_iff, earliest?_eq_none_iff, List.eq_nil_iff_forall_not_mem]
  constructor
  · intro hnone g hg s hs
    exact hnone (g.name, s) (h.mem_matching.mpr ⟨g, hg, rfl, hs⟩)
  · rintro hnone ⟨group, s⟩ hmem
    obtain ⟨g, hg, -, hs⟩ := h.mem_matching.mp hmem
    exact hnone g hg s hs

/-- What is found has the name, and it is in the first group that has such a kind. -/
theorem Visits.isChoice (h : tour.Visits groups) (hs : tour.resolve name = some s) :
    IsChoice groups name s := by
  obtain ⟨⟨group, s⟩, hfirst, rfl⟩ := Option.map_eq_some_iff.mp hs
  obtain ⟨hmem, hle⟩ := first_of_earliest? hfirst
  obtain ⟨g, hg, rfl, hoffers⟩ := h.mem_matching.mp hmem
  refine ⟨g, hg, hoffers, fun k hk ⟨t, ht⟩ => ?_⟩
  exact hle (k.name, t) (h.mem_matching.mpr ⟨k, hk, rfl, ht⟩)

end Tour

/-- Every kind with the name in the first group that has one is found on some tour: on the one that
begins with it. -/
theorem exists_visits_of_isChoice (hs : IsChoice groups name s) :
    ∃ tour : Tour, tour.Visits groups ∧ tour.resolve name = some s := by
  obtain ⟨g, hg, ⟨hmem, hnamed⟩, hfirst⟩ := hs
  let rest : Tour := (groups.erase g).map fun h => (h.name, h.kinds)
  let tour : Tour := (g.name, s :: g.kinds.erase s) :: rest
  have hvisits : tour.Visits groups := by
    refine ⟨(g, s :: g.kinds.erase s) :: (groups.erase g).map fun h => (h, h.kinds), ?_, ?_, ?_⟩
    · simpa [Function.comp_def] using (List.perm_cons_erase hg).symm
    · simpa using (List.perm_cons_erase hmem).symm
    · simp [tour, rest, Function.comp_def]
  obtain ⟨others, hmatching⟩ : ∃ others, tour.matching name = (g.name, s) :: others := by
    simp [tour, Tour.matching, hnamed]
  refine ⟨tour, hvisits, ?_⟩
  rw [Tour.resolve, hmatching, earliest?_cons_of_le]
  · rfl
  rintro ⟨group, t⟩ ht
  -- whatever else is met with the name belongs to a group that has it
  obtain ⟨h, hh, rfl, hoffers⟩ :=
    hvisits.mem_matching.mp (hmatching ▸ List.mem_cons_of_mem _ ht)
  exact hfirst h hh ⟨t, hoffers⟩

/-- **Which kind a name stands for**, whatever the groups and the name are:

* the groups in the order in which they are given are one of the ways through them;
* each group has each of its kinds once, in its most preferred version;
* it offers a kind with the name if some version of a kind has the name, provided that all versions
  of that kind have the same plural;
* nothing is found on a way exactly if no group offers a kind with the name, so on no way then;
* what is found on the ways are the kinds with the name in the first of the groups that offer one;
* the same is found on all ways exactly if there is no more than one such kind. -/
theorem resolve_agrees_iff (groups : List Group) (name : String) :
    (tour groups).Visits groups ∧
    (∀ g ∈ groups, (g.kinds.map (·.resource.kind)).Nodup ∧ (∀ s ∈ g.kinds, g.IsBest s) ∧
      ∀ t ∈ g.all, ∃ s ∈ g.kinds, s.resource.kind = t.resource.kind) ∧
    (∀ g ∈ groups, ∀ s ∈ g.all, s.resource.isNamed name = true →
      (∀ t ∈ g.all, t.resource.kind = s.resource.kind → t.resource.plural = s.resource.plural) →
        ∃ t, g.Offers name t ∧ t.resource.kind = s.resource.kind) ∧
    (∀ tour : Tour, tour.Visits groups →
      (tour.resolve name = none ↔ ∀ g ∈ groups, ∀ s, ¬ g.Offers name s)) ∧
    (∀ s, (∃ tour : Tour, tour.Visits groups ∧ tour.resolve name = some s) ↔
      IsChoice groups name s) ∧
    ((∀ a b : Tour, a.Visits groups → b.Visits groups → a.resolve name = b.resolve name) ↔
      ∀ s t, IsChoice groups name s → IsChoice groups name t → s = t) := by
  have hchoice : ∀ s, (∃ tour : Tour, tour.Visits groups ∧ tour.resolve name = some s) ↔
      IsChoice groups name s :=
    fun s => ⟨fun ⟨_, hvisits, hs⟩ => hvisits.isChoice hs, exists_visits_of_isChoice⟩
  have hkinds (g : Group) : (g.kinds.map (·.resource.kind)).Nodup ∧ (∀ s ∈ g.kinds, g.IsBest s) ∧
      ∀ t ∈ g.all, ∃ s ∈ g.kinds, s.resource.kind = t.resource.kind :=
    ⟨g.nodup_kinds, fun _ => g.isBest_of_mem_kinds, fun _ => g.exists_mem_kinds⟩
  refine ⟨visits_tour groups, fun g _ => hkinds g, fun g _ s => g.exists_offers,
    fun _ hvisits => hvisits.resolve_eq_none_iff, hchoice, ?_, ?_⟩
  · intro hagree s t hs ht
    obtain ⟨a, ha, hs⟩ := (hchoice s).mpr hs
    obtain ⟨b, hb, ht⟩ := (hchoice t).mpr ht
    exact Option.some.inj (hs.symm.trans ((hagree a b ha hb).trans ht))
  · intro hunique a b ha hb
    have hnone : a.resolve name = none ↔ b.resolve name = none :=
      ha.resolve_eq_none_iff.trans hb.resolve_eq_none_iff.symm
    cases hs : a.resolve name with
    | none => exact (hnone.mp hs).symm
    | some s =>
      cases ht : b.resolve name with
      | none => exact hs.symm.trans (hnone.mpr ht)
      | some t => exact congrArg some (hunique s t (ha.isChoice hs) (hb.isChoice ht))

/-! ### Groups in which the order matters, and in which a plural is lost -/

/-- A kind of the group `example.com`. -/
def ofVersion (version kind plural : String) : Served :=
  ⟨.ofGroup "example.com" version kind plural, true⟩

/-- The kind of the first version. -/
def widget : Served := ofVersion "v1" "Widget" "widgets"

/-- A kind of an earlier version that has the plural of another one. -/
def gadget : Served := ofVersion "v1alpha1" "Gadget" "widgets"

/-- The same kind as an earlier version has it, with another plural. -/
def gizmo : Served := ofVersion "v1alpha1" "Widget" "gizmos"

/-- The group of the first version and an earlier one with the kind. -/
def withEarlier (s : Served) : Group :=
  .ofVersions "example.com" [("v1", [widget]), ("v1alpha1", [s])]

theorem all_withEarlier (s : Served) : (withEarlier s).all = [widget, s] := by
  have hpreferred : (Version.parse "v1").isPreferred (.parse "v1alpha1") = true := by
    decide +kernel
  rw [withEarlier, Group.ofVersions, List.mergeSort_of_pairwise (by simp [hpreferred])]
  rfl

/-- The kinds come in the order of their names, whichever version they are in. -/
theorem kinds_withEarlier_gadget : (withEarlier gadget).kinds = [gadget, widget] := by
  have hgadget : (withEarlier gadget).best? "Gadget" = some gadget := by
    simp [Group.best?, all_withEarlier, widget, gadget, ofVersion, Resource.ofGroup]
  have hwidget : (withEarlier gadget).best? "Widget" = some widget := by
    simp [Group.best?, all_withEarlier, widget, gadget, ofVersion, Resource.ofGroup]
  have hlt : ¬ ("Widget" : String) ≤ "Gadget" := by decide +kernel
  have hnames : (((withEarlier gadget).all.map (·.resource.kind)).eraseDups.mergeSort fun a b =>
      decide (a ≤ b)) = ["Gadget", "Widget"] := by
    simp [all_withEarlier, widget, gadget, ofVersion, Resource.ofGroup, List.eraseDups_cons, hlt,
      List.mergeSort, List.MergeSort.Internal.splitInTwo]
  rw [Group.kinds, hnames]
  simp [hgadget, hwidget]

theorem eq_of_mem_kinds_gizmo (hs : s ∈ (withEarlier gizmo).kinds) : s = widget := by
  obtain ⟨hmem, hbest⟩ := Group.isBest_of_mem_kinds hs
  rw [all_withEarlier] at hmem hbest
  rcases List.mem_pair.mp hmem with rfl | rfl
  · rfl
  · exact absurd (hbest widget List.mem_cons_self rfl) (by decide +kernel)

theorem isChoice_withEarlier_gadget (hs : s ∈ [gadget, widget]) :
    IsChoice [withEarlier gadget] "widgets" s := by
  have hnamed : s.resource.isNamed "widgets" = true := by
    rcases List.mem_pair.mp hs with rfl | rfl <;> decide +kernel
  rw [← kinds_withEarlier_gadget] at hs
  refine ⟨withEarlier gadget, List.mem_singleton_self _, ⟨hs, hnamed⟩, fun h hh _ => ?_⟩
  obtain rfl := List.mem_singleton.mp hh
  exact String.le_refl _

/-- **The order can matter, and a plural can be lost**, also where no two groups have one name:

* two ways through the groups can find different kinds;
* what is found need not be in the most preferred version of those in which the group offers the
  name;
* nothing may be found although a version of a group has a kind with the name. -/
theorem not_forall_resolve_agrees :
    (¬ ∀ (groups : List Group) (name : String) (a b : Tour), (groups.map (·.name)).Nodup →
      a.Visits groups → b.Visits groups → a.resolve name = b.resolve name) ∧
    (¬ ∀ (groups : List Group) (name : String) (s t : Served) (g : Group),
      (groups.map (·.name)).Nodup → resolve groups name = some s → g ∈ groups →
      g.Offers name s → g.Offers name t →
        (Version.parse s.resource.version).isPreferred (.parse t.resource.version) = true) ∧
    ¬ ∀ (groups : List Group) (name : String) (g : Group) (s : Served),
      (groups.map (·.name)).Nodup → resolve groups name = none → g ∈ groups → s ∈ g.all →
        s.resource.isNamed name = false := by
  refine ⟨fun hagree => ?_, fun hbest => ?_, fun hfound => ?_⟩
  · obtain ⟨a, ha, hfirst⟩ :=
      exists_visits_of_isChoice (isChoice_withEarlier_gadget (s := gadget) (by simp))
    obtain ⟨b, hb, hsecond⟩ :=
      exists_visits_of_isChoice (isChoice_withEarlier_gadget (s := widget) (by simp))
    have heq := hagree [withEarlier gadget] "widgets" a b (List.nodup_singleton _) ha hb
    rw [hfirst, hsecond] at heq
    exact absurd heq (by decide)
  · have hresolve : resolve [withEarlier gadget] "widgets" = some gadget := by
      rw [resolve, tour, List.map_singleton, kinds_withEarlier_gadget]
      decide +kernel
    have hle := hbest [withEarlier gadget] "widgets" gadget widget (withEarlier gadget)
      (List.nodup_singleton _) hresolve (List.mem_singleton_self _)
      ⟨by simp [kinds_withEarlier_gadget], by decide +kernel⟩
      ⟨by simp [kinds_withEarlier_gadget], by decide +kernel⟩
    exact absurd hle (by decide +kernel)
  · have hresolve : resolve [withEarlier gizmo] "gizmos" = none := by
      refine (visits_tour _).resolve_eq_none_iff.mpr fun g hg s hs => ?_
      obtain rfl := List.mem_singleton.mp hg
      have hnamed := hs.2
      rw [eq_of_mem_kinds_gizmo hs.1] at hnamed
      exact absurd hnamed (by decide +kernel)
    have hlost := hfound [withEarlier gizmo] "gizmos" (withEarlier gizmo) gizmo
      (List.nodup_singleton _) hresolve (List.mem_singleton_self _) (by simp [all_withEarlier])
    exact absurd hlost (by decide +kernel)

end RolloutTree.Api
