import RolloutTree.Text.Ranges

/-!
# White space

The property `White_Space` of Unicode, and the two things done with it: a line loses the white
space at its end, and a tag is known by its first word.

## Main definitions

* `isBlank`: the property.
* `trimEnd`: the text up to its last character that is not white space.
* `firstWord`: the first word of a text, or the whole text when it has none.
-/

namespace RolloutTree.Text

/-- The code points with the property `White_Space`. -/
def whiteSpace : Ranges :=
  [(0x0009, 0x000d), (0x0020, 0x0020), (0x0085, 0x0085), (0x00a0, 0x00a0), (0x1680, 0x1680),
    (0x2000, 0x200a), (0x2028, 0x2029), (0x202f, 0x202f), (0x205f, 0x205f), (0x3000, 0x3000)]

/-- Whether the character is white space. -/
def isBlank (c : Char) : Bool := whiteSpace.contains c

/-- The characters up to the last one that is not white space. -/
def dropTrailingBlanks (cs : List Char) : List Char := (cs.reverse.dropWhile isBlank).reverse

/-- The text up to its last character that is not white space. -/
def trimEnd (s : String) : String := String.ofList (dropTrailingBlanks s.toList)

/-- What is dropped at the end is white space, and nothing else changes. -/
theorem dropTrailingBlanks_append (cs : List Char) :
    ∃ blanks, (∀ c ∈ blanks, isBlank c = true) ∧ dropTrailingBlanks cs ++ blanks = cs := by
  refine ⟨(cs.reverse.takeWhile isBlank).reverse, fun c hc => ?_, ?_⟩
  · rw [List.mem_reverse] at hc
    exact List.all_eq_true.1 (List.all_takeWhile) c hc
  · rw [dropTrailingBlanks, ← List.reverse_append, List.takeWhile_append_dropWhile,
      List.reverse_reverse]

/-- The first word of the text, or the whole text when it has no word. -/
def firstWord (s : String) : String :=
  match (s.toList.dropWhile isBlank).takeWhile (!isBlank ·) with
  | [] => s
  | word => String.ofList word

end RolloutTree.Text
