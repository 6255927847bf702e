import RolloutTree.Text.Width

/-!
# Columns of a text around spaces

Some characters take fewer columns than none: they end a ligature whose letters have been counted
one by one. The reader comes from the end of a text, so such a character finds that the columns it
takes back have been added before. What may be taken back is the debt of a follower, and no debt is
larger than the columns in sight. A space takes one column and leaves no debt, so that the columns
of a text with spaces in it are those of its parts.

## Main definitions

* `Follower.debt`: the columns that characters in front of the follower may take back.

## Main results

* `Context.debt_add`: one character leaves no more debt than it pays for.
* `columns_append_spaces`: spaces separate the columns of what stands around them.
-/

namespace RolloutTree

/-- Two tables without a common code point have no common character. -/
theorem Ranges.contains_eq_false_of_disjoint {table other : Ranges} {c : Char}
    (h : ∀ r ∈ table, ∀ q ∈ other, r.2 < q.1 ∨ q.2 < r.1) (hc : table.contains c = true) :
    other.contains c = false := by
  rw [Bool.eq_false_iff]
  intro hother
  obtain ⟨r, hr, hrc, hcr⟩ := contains_iff.mp hc
  obtain ⟨q, hq, hqc, hcq⟩ := contains_iff.mp hother
  rcases h r hr q hq with hlt | hlt <;> omega

namespace Text.Width

/-! ### Debts -/

/-- The columns that characters in front of the follower may take back. -/
def Follower.debt : Follower → Int
  | ligature .khmer _ | ligature .tifinaghJoined _ | joinedRegional | joinedRegionalOdd => 1
  | _ => 0

theorem Follower.debt_nonneg (follower : Follower) : 0 ≤ follower.debt := by
  unfold debt
  split <;> decide

theorem Follower.debt_withJoiner (follower : Follower) :
    follower.withJoiner.debt = follower.debt := by
  cases follower with
  | ligature letter joiner => cases letter <;> rfl
  | _ => rfl

/-- Letters of coeng signs are shown when they stand alone. -/
theorem isHidden_eq_false_of_coeng {c : Char} (hc : coengLetters.contains c = true) :
    isHidden c = false := by
  have hextending : isExtending c = false :=
    Ranges.contains_eq_false_of_disjoint (by decide +kernel) hc
  have hothers : hiddenOthers.contains c = false :=
    Ranges.contains_eq_false_of_disjoint (by decide +kernel) hc
  rw [isHidden, hextending, hothers]
  rfl

theorem columnsAlone_nonneg (c : Char) : 0 ≤ columnsAlone c := by
  unfold columnsAlone
  split
  · decide
  · split <;> decide

/-- A character alone takes the columns that may be taken back from it. -/
theorem debt_followerAlone (c : Char) : (followerAlone c).debt ≤ columnsAlone c := by
  by_cases hc : coengLetters.contains c = true
  · have hone : 1 ≤ columnsAlone c := by
      rw [columnsAlone, isHidden_eq_false_of_coeng hc, if_neg Bool.false_ne_true]
      split <;> decide
    refine Int.le_trans ?_ hone
    unfold Follower.debt
    split <;> decide
  · have hnone {p : Prop} [Decidable p] {found other : Follower} (hfound : p → found.debt = 0)
        (hother : other.debt = 0) : (if p then found else other).debt = 0 := by
      split
      · exact hfound ‹p›
      · exact hother
    refine Int.le_trans (Int.le_of_eq ?_) (columnsAlone_nonneg c)
    exact hnone (fun _ => rfl) <| hnone (fun _ => rfl) <| hnone (fun _ => rfl) <|
      hnone (fun _ => rfl) <| hnone (fun _ => rfl) <| hnone (fun _ => rfl) <|
      hnone (fun h => absurd h hc) <| hnone (fun _ => rfl) <| hnone (fun _ => rfl) <|
      hnone (fun _ => rfl) <| hnone (fun _ => rfl) <| hnone (fun _ => rfl) rfl

/-- What is found, if anything, takes its columns and leaves no more debt than there is then. -/
def Pays (debt : Int) (found : Option (Int × Follower)) : Prop :=
  ∀ added next, found = some (added, next) → next.debt ≤ debt + added

namespace Pays

variable {debt added : Int} {next : Follower} {found other : Option (Int × Follower)}

theorem none : Pays debt none := nofun

theorem some (h : next.debt ≤ debt + added) : Pays debt (some (added, next)) := by
  intro _ _ heq
  obtain ⟨rfl, rfl⟩ := Prod.mk.inj (Option.some.inj heq)
  exact h

theorem ite {p : Prop} [Decidable p] (h : Pays debt found) (h' : Pays debt other) :
    Pays debt (if p then found else other) := by
  split
  · exact h
  · exact h'

end Pays

theorem pays_ligate (c : Char) : (letter : LigatureEnd) → (joiner : Bool) →
    Pays (Follower.ligature letter joiner).debt (ligate c letter joiner)
  | .alef, _ => .ite (.some (Int.le_refl 0)) (.ite (.some (Int.le_refl 0)) .none)
  | .lamed, true | .orkhonI, true => .ite (.some (Int.le_refl 0)) .none
  -- the coeng sign takes back the column of its letter
  | .khmer, _ => .ite (.some (Int.le_refl 0)) .none
  | .buginesYa, true | .buginesVowelYa, _ => .ite (.some (Int.le_refl 0)) .none
  | .tifinagh, _ => .ite (.some (Int.le_refl 1)) (.ite (.some (Int.le_refl 0)) .none)
  | .tifinaghJoined, _ => .ite (.some (Int.le_refl 0)) .none
  | .lisuTone, _ | .kiratAi, _ => .ite (.some (Int.le_refl 0)) .none
  | .kiratE, _ => .ite (.some (Int.le_refl 0)) <| .ite (.some (Int.le_refl 0)) <|
      .ite (.some Int.one_nonneg) .none
  | .lamed, false | .buginesYa, false | .orkhonI, false => .none

theorem pays_extend (c : Char) : (follower : Follower) → Pays follower.debt (extend c follower)
  | .ligature letter joiner => pays_ligate c letter joiner
  | .modifier => .ite (.some (by decide)) (.ite (.some (by decide)) .none)
  | .regional => .ite (.some (by decide)) .none
  | .regionals => .ite (.some (by decide)) (.ite (.some (by decide)) .none)
  | .emoji => .ite (.some (by decide)) .none
  | .joined =>
    .ite (.some (by decide)) <| .ite (.some (by decide)) <| .ite (.some (by decide)) <|
      .ite (.some (by decide)) <| .ite (.some (by decide)) .none
  | .joinedRegional => .ite (.some (by decide)) .none
  | .joinedRegionalEven => .ite (.some (by decide)) (.ite (.some (by decide)) .none)
  | .joinedRegionalOdd => .ite (.some (by decide)) (.ite (.some (by decide)) .none)
  | .tagLetters _ =>
    .ite (.some (Int.le_refl 0)) (.ite (.some (Int.le_refl 0)) (.ite (.some (Int.le_refl 0)) .none))
  | .tagDigits _ => .ite (.some (Int.le_refl 0)) (.ite (.some (Int.le_refl 0)) .none)
  | .plain | .lineFeed | .joinedKeycap => .none

namespace Context

theorem debt_selectEmoji (x : Context) : x.selectEmoji.follower.debt ≤ x.follower.debt := by
  unfold selectEmoji
  split
  · exact Int.le_refl _
  · exact x.follower.debt_nonneg

theorem debt_selectText (x : Context) : x.selectText.follower.debt ≤ x.follower.debt := by
  unfold selectText
  split
  · exact Int.le_refl _
  · exact x.follower.debt_nonneg

/-- One more character leaves no more debt than there was and than it takes columns. -/
theorem debt_add (c : Char) (x : Context) :
    (x.add c).2.follower.debt ≤ x.follower.debt + (x.add c).1 := by
  have hpaid {added : Int} (hadded : 0 ≤ added) : 0 ≤ x.follower.debt + added :=
    Int.add_nonneg x.follower.debt_nonneg hadded
  unfold add
  split
  · refine hpaid ?_
    split <;> decide
  split
  · split
    · exact hpaid (by decide)
    · split <;> exact hpaid (by decide)
  split
  · simpa using x.debt_selectEmoji
  split
  · simpa using x.debt_selectText
  split
  · exact hpaid (by decide)
  split
  · simp [Follower.debt_withJoiner]
  split
  · simp
  split
  · rename_i added follower hextend
    exact pays_extend c x.follower added follower hextend
  · have halone := debt_followerAlone c
    have hdebt := x.follower.debt_nonneg
    simp only
    omega

end Context

/-! ### Measuring in parts -/

theorem measure_cons (c : Char) (cs : List Char) (x : Context) : measure (c :: cs) x =
    (((measure cs x).2.add c).1 + (measure cs x).1, ((measure cs x).2.add c).2) := rfl

/-- A text can be measured in two parts, the later one first. -/
theorem measure_append : (as bs : List Char) → (x : Context) → measure (as ++ bs) x =
    ((measure as (measure bs x).2).1 + (measure bs x).1, (measure as (measure bs x).2).2)
  | [], bs, x => by simp [measure]
  | a :: as, bs, x => by
    rw [List.cons_append, measure_cons, measure_append as bs x, measure_cons, Int.add_assoc]

/-- What characters leave in debt has been added before. -/
theorem debt_measure : (cs : List Char) → (x : Context) →
    (measure cs x).2.follower.debt ≤ x.follower.debt + (measure cs x).1
  | [], x => by simp [measure]
  | c :: cs, x => by
    have hrest := debt_measure cs x
    have hadd := Context.debt_add c (measure cs x).2
    rw [measure_cons]
    simp only
    omega

theorem measure_nonneg (cs : List Char) : 0 ≤ (measure cs {}).1 := by
  have hdebt := debt_measure cs {}
  have hnonneg := (measure cs {}).2.follower.debt_nonneg
  have hplain : Follower.plain.debt = 0 := rfl
  simp only [hplain] at hdebt
  omega

theorem measure_spaces (x : Context) : (count : Nat) →
    measure (List.replicate (count + 1) ' ') x = (((count + 1 : Nat) : Int), {})
  | 0 => by simp [measure]
  | count + 1 => by
    rw [List.replicate_succ, measure_cons, measure_spaces x count, Context.add_space]
    simp only [Prod.mk.injEq, and_true]
    omega

/-- Spaces separate the columns of the text before them from those of the text after them. -/
theorem columns_append_spaces (a b : String) {count : Nat} (hcount : 0 < count) :
    columns (a ++ String.ofList (List.replicate count ' ') ++ b) =
      columns a + count + columns b := by
  obtain ⟨count, rfl⟩ := Nat.exists_eq_add_of_lt hcount
  have ha := measure_nonneg a.toList
  have hb := measure_nonneg b.toList
  simp only [columns, String.toList_append, String.toList_ofList, List.append_assoc,
    Nat.zero_add, measure_append, measure_spaces]
  omega

end Text.Width

end RolloutTree
