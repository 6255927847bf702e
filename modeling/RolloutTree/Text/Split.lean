/-!
# Cutting texts

## Main definitions

* `pieces`: the pieces of a text between all separators.
* `cut?`: the two parts of a text at its first separator.

## Main results

* `pieces_eq_splitOn`: the pieces are those of the standard library.
* `intercalate_pieces`: the pieces with separators between them are the text.
* `not_mem_of_mem_pieces`: no piece has a separator in it.
* `cut?_eq_none_iff`, `toList_of_cut?`, `not_mem_of_cut?`, `cut?_append`: a text is cut at its first
  separator.
-/

namespace RolloutTree.Text

/-- The pieces of a text between its separators, of which there is one more than separators. -/
def pieces (separator : Char) : List Char → List (List Char)
  | [] => [[]]
  | c :: cs =>
    if c = separator then [] :: pieces separator cs
    else
      match pieces separator cs with
      | piece :: rest => (c :: piece) :: rest
      | [] => [[c]]

theorem pieces_ne_nil (separator : Char) (cs : List Char) : pieces separator cs ≠ [] := by
  cases cs with
  | nil => simp [pieces]
  | cons c cs =>
    rw [pieces]
    split
    · simp
    · split <;> simp

/-- The pieces are those of the standard library. -/
theorem pieces_eq_splitOn (separator : Char) (cs : List Char) :
    pieces separator cs = cs.splitOn separator := by
  induction cs with
  | nil => rfl
  | cons c cs ih =>
    obtain ⟨piece, rest, h⟩ := List.exists_cons_of_ne_nil (pieces_ne_nil separator cs)
    rw [pieces, List.splitOn_cons_eq_if_modifyHead, ← ih, h]
    by_cases hc : c = separator <;> simp [hc]

/-- The pieces with separators between them are the text. -/
theorem intercalate_pieces (separator : Char) (cs : List Char) :
    [separator].intercalate (pieces separator cs) = cs := by
  rw [pieces_eq_splitOn]
  exact List.intercalate_splitOn separator

/-- No piece has a separator in it. -/
theorem not_mem_of_mem_pieces {separator : Char} {cs : List Char} :
    ∀ piece ∈ pieces separator cs, separator ∉ piece := by
  induction cs with
  | nil => simp [pieces]
  | cons c cs ih =>
    obtain ⟨piece, rest, h⟩ := List.exists_cons_of_ne_nil (pieces_ne_nil separator cs)
    rw [h, List.forall_mem_cons] at ih
    rw [pieces, h]
    by_cases hc : c = separator
    · simpa [hc] using ih
    · simpa [hc, Ne.symm hc] using ih

/-- The parts of the text before and behind the first separator, if it has one. -/
def cut? (separator : Char) (s : String) : Option (String × String) :=
  match s.toList.dropWhile (· ≠ separator) with
  | [] => none
  | _ :: rest => some (String.ofList (s.toList.takeWhile (· ≠ separator)), String.ofList rest)

/-- A text is cut unless it has no separator. -/
theorem cut?_eq_none_iff {separator : Char} {s : String} :
    cut? separator s = none ↔ separator ∉ s.toList := by
  have h : ∀ cs : List Char, cs.dropWhile (· ≠ separator) = [] ↔ separator ∉ cs := by
    intro cs
    induction cs with
    | nil => simp
    | cons c cs ih =>
      by_cases hc : c = separator
      · simp [hc]
      · simpa [hc, Ne.symm hc] using ih
  rw [← h, cut?]
  split <;> simp_all

/-- The parts with the separator between them are the text. -/
theorem toList_of_cut? {separator : Char} {s first rest : String}
    (h : cut? separator s = some (first, rest)) :
    s.toList = first.toList ++ separator :: rest.toList := by
  have htext := List.takeWhile_append_dropWhile (p := (· ≠ separator)) (l := s.toList)
  have hmark := List.head?_dropWhile_not (· ≠ separator) s.toList
  rw [cut?] at h
  split at h
  · simp at h
  · next c tail hdrop =>
    rw [hdrop] at htext hmark
    have hc : c = separator := by simpa using hmark
    simp only [Option.some.injEq, Prod.mk.injEq] at h
    rw [← h.1, ← h.2, String.toList_ofList, String.toList_ofList, ← hc]
    rw [← hc] at htext
    exact htext.symm

/-- The first part has no separator. -/
theorem not_mem_of_cut? {separator : Char} {s first rest : String}
    (h : cut? separator s = some (first, rest)) : separator ∉ first.toList := by
  rw [cut?] at h
  split at h
  · simp at h
  · simp only [Option.some.injEq, Prod.mk.injEq] at h
    rw [← h.1, String.toList_ofList]
    intro hmem
    simpa using List.all_eq_true.1 List.all_takeWhile separator hmem

/-- A text is cut behind a first part that has no separator. -/
theorem cut?_append {separator : Char} {first : String} (h : separator ∉ first.toList)
    (rest : String) :
    cut? separator (first ++ String.singleton separator ++ rest) = some (first, rest) := by
  have hfirst : ∀ c ∈ first.toList, decide (c ≠ separator) = true :=
    fun c hc => decide_eq_true fun heq => h (heq ▸ hc)
  have htext : (first ++ String.singleton separator ++ rest).toList =
      first.toList ++ separator :: rest.toList := by simp
  rw [cut?, htext, List.dropWhile_append_of_pos hfirst, List.takeWhile_append_of_pos hfirst]
  simp

end RolloutTree.Text
