import Mathlib.Algebra.Ring.Int.Defs
import Mathlib.Data.List.Induction
import RolloutTree.Word

/-!
# Sums that have a word

A checked sum of two words is there exactly if a word stands for the sum of their numbers, and then
it is that word. So the words of a list have a checked sum exactly if the first of them, up to any
place, have a sum with a word. It is not enough that the sum of all has one: the sums on the way to
it matter.

## Main definitions

* `Word.exactSum`: the sum of the numbers that the words stand for.
* `Word.AddsUp`: every sum on the way from the first word to the last has a word.

## Main results

* `Crash.bind_eq_ok`, `Crash.then_eq_ok`, `Crash.forM_eq_ok`: what is done one after the other does
  not break off exactly if nothing of it does.
* `Word.sum_eq_ok_iff`, `Word.exists_sum_eq_ok_iff`: the checked sum, and when it is there.
-/

namespace RolloutTree

/-! ### Computations that may break off -/

namespace Crash

variable {α β : Type}

theorem bind_eq_ok {x : Except Crash α} {next : α → Except Crash β} {b : β} :
    (x >>= next) = .ok b ↔ ∃ a, x = .ok a ∧ next a = .ok b := by
  cases x <;> simp [bind, Except.bind]

/-- After a check the rest is done if the check does not break off. -/
theorem then_eq_ok {check : Except Crash Unit} {rest : Except Crash α} {a : α} :
    (check >>= fun _ => rest) = .ok a ↔ check = .ok () ∧ rest = .ok a :=
  bind_eq_ok.trans ⟨fun ⟨_, hcheck, hrest⟩ => ⟨hcheck, hrest⟩,
    fun ⟨hcheck, hrest⟩ => ⟨(), hcheck, hrest⟩⟩

/-- A check of all items does not break off exactly if it does for none. -/
theorem forM_eq_ok {items : List α} {check : α → Except Crash Unit} :
    items.forM check = .ok () ↔ ∀ a ∈ items, check a = .ok () := by
  induction items with
  | nil => exact iff_of_true rfl nofun
  | cons a items ih =>
    change (check a >>= fun _ => items.forM check) = .ok () ↔ _
    rw [then_eq_ok, List.forall_mem_cons, ih]

/-- To check that something has a result is to have it. -/
theorem discard_eq_ok {x : Except Crash α} :
    (x >>= fun _ => pure () : Except Crash Unit) = .ok () ↔ ∃ a, x = .ok a :=
  bind_eq_ok.trans (exists_congr fun _ => and_iff_left rfl)

/-- There is only one reason to break off. -/
theorem eq_overflow_iff {x : Except Crash α} : x = .error .overflow ↔ ¬∃ a, x = .ok a := by
  cases x with
  | error crash => cases crash; simp
  | ok a => simp

end Crash

/-! ### Sums of words -/

namespace Word

/-- The sum of the numbers that the words stand for. -/
def exactSum (words : List Int32) : Int := (words.map Int32.toInt).sum

/-- Every sum on the way from the first word to the last has a word. -/
def AddsUp (words : List Int32) : Prop := ∀ before, before <+: words → Fits (exactSum before)

variable {words : List Int32} {word : Int32} {n : Int}

theorem exactSum_concat (words : List Int32) (word : Int32) :
    exactSum (words ++ [word]) = exactSum words + word.toInt := by
  rw [exactSum, List.map_append, List.sum_append, List.map_singleton, List.sum_singleton, exactSum]

theorem fits_toInt (word : Int32) : Fits word.toInt := ⟨word.le_toInt, word.toInt_le⟩

/-- A number that fits is that of a word. -/
theorem exists_toInt_eq_iff : (∃ word : Int32, word.toInt = n) ↔ Fits n := by
  constructor
  · rintro ⟨word, rfl⟩
    exact fits_toInt word
  · rintro ⟨hle, hge⟩
    exact ⟨.ofInt n, Int32.toInt_ofInt_of_le hle (Int.lt_add_one_of_le hge)⟩

/-- The checked sum of two words is the word for the sum of their numbers. -/
theorem add_eq_ok_iff {a b c : Int32} : add a b = .ok c ↔ c.toInt = a.toInt + b.toInt := by
  have hsum (h : Fits (a.toInt + b.toInt)) : (a + b).toInt = a.toInt + b.toInt := by
    rw [Int32.toInt_add, Int.bmod_eq_iff (by decide)]
    unfold Fits at h
    omega
  rw [add]
  split
  · rename_i h
    rw [← hsum h, Int32.toInt_inj, Except.ok.injEq, eq_comm]
  · rename_i h
    exact iff_of_false nofun fun hc => h (hc ▸ fits_toInt c)

theorem AddsUp.fits (h : AddsUp words) : Fits (exactSum words) := h words List.prefix_rfl

theorem addsUp_concat_iff :
    AddsUp (words ++ [word]) ↔ AddsUp words ∧ Fits (exactSum (words ++ [word])) := by
  simp only [AddsUp, List.prefix_concat_iff, or_imp, forall_and, forall_eq]
  exact and_comm

theorem sum_concat (words : List Int32) (word : Int32) :
    sum (words ++ [word]) = sum words >>= fun n => add n word := by
  rw [sum, List.foldlM_append]
  simp only [List.foldlM_cons, List.foldlM_nil, bind_pure]
  rfl

/-- The checked sum is the word for the sum of the numbers, if all sums on the way to it have a
word. -/
theorem sum_eq_ok_iff {n : Int32} :
    sum words = .ok n ↔ AddsUp words ∧ n.toInt = exactSum words := by
  -- the last word is added to the sum of those before it
  induction words using List.reverseRecOn generalizing n with
  | nil =>
    have hnil : AddsUp [] := fun before h => by
      rw [List.prefix_nil.mp h]
      decide
    rw [and_iff_right hnil]
    change Except.ok 0 = Except.ok n ↔ n.toInt = (0 : Int32).toInt
    rw [Except.ok.injEq, Int32.toInt_inj, eq_comm]
  | append_singleton words word ih =>
    rw [sum_concat, Crash.bind_eq_ok, addsUp_concat_iff]
    simp only [ih, add_eq_ok_iff, exactSum_concat]
    constructor
    · rintro ⟨m, ⟨hwords, hm⟩, hn⟩
      rw [← hm, ← hn]
      exact ⟨⟨hwords, fits_toInt n⟩, rfl⟩
    · rintro ⟨⟨hwords, -⟩, hn⟩
      obtain ⟨m, hm⟩ := exists_toInt_eq_iff.mpr hwords.fits
      exact ⟨m, ⟨hwords, hm⟩, hm ▸ hn⟩

/-- There is a checked sum exactly if all sums on the way to it have a word. -/
theorem exists_sum_eq_ok_iff : (∃ n, sum words = .ok n) ↔ AddsUp words := by
  simp only [sum_eq_ok_iff, exists_and_left]
  exact and_iff_left_of_imp fun h => exists_toInt_eq_iff.mpr h.fits

/-- The words do not add up exactly if some of the first have a sum without a word. -/
theorem not_addsUp_iff : ¬AddsUp words ↔ ∃ before, before <+: words ∧ ¬Fits (exactSum before) := by
  simp only [AddsUp, not_forall, exists_prop]

end Word

end RolloutTree
