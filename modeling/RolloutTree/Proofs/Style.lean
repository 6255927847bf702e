import RolloutTree.Proofs.Text.Escape
import RolloutTree.Style

/-!
# Painted texts

A painter puts attributes in front of a text and resets them behind it, or leaves the text as it is.
Either way the text can be read back from what the painter gives, because every colour of a word or
glyph has a number of two digits, so that as much stands in front of one text as in front of any
other. And either way the same is shown, unless the text ends inside an escape sequence and hides
the start of the reset.

## Main definitions

* `Painter.opening`, `Painter.closing`: what a painter puts in front of a text and behind it.

## Main results

* `Painter.paintToken_injective`: a painted word or glyph determines it.
* `Painter.strip_paint`: what is shown of a painted text.
* `Painter.color_invisible_iff_closed`: which texts are shown in colour as they are without.
-/

namespace RolloutTree

/-- The colours of words and glyphs have numbers of two digits. -/
theorem Style.length_toString_colorOf (token : String) :
    (toString (colorOf token)).toList.length = 2 := by
  unfold colorOf
  split <;> rfl

namespace Painter

variable (p : Painter)

/-- What the painter puts in front of a text in the colour of the word or glyph. -/
def opening (token : String) : List Char :=
  if p.isColored then (Escape.attributes [Style.colorOf token]).toList else []

/-- What the painter puts behind a text. -/
def closing : List Char := if p.isColored then (Escape.attributes [0]).toList else []

theorem toList_paintAs (token text : String) :
    (p.paintAs token text).toList = p.opening token ++ text.toList ++ p.closing := by
  cases h : p.isColored with
  | false => simp [paintAs, paint, opening, closing, h]
  | true => simp [paintAs, paint, opening, closing, h, Escape.graphic]

/-- As much stands in front of one painted text as in front of another. -/
theorem length_opening (token : String) :
    (p.opening token).length = if p.isColored then 5 else 0 := by
  have hattributes : (Escape.attributes [Style.colorOf token]).toList.length = 5 := by
    rw [Escape.toList_attributes, List.map_singleton, String.intercalate_singleton,
      List.length_append, List.length_append, Style.length_toString_colorOf]
    rfl
  rw [opening]
  split
  · exact hattributes
  · rfl

theorem length_paintToken (s : String) :
    (p.paintToken s).toList.length =
      (if p.isColored then 5 else 0) + s.toList.length + p.closing.length := by
  rw [paintToken, toList_paintAs, List.length_append, List.length_append, length_opening]

/-- A painted word or glyph determines it. -/
theorem paintToken_injective : Function.Injective p.paintToken := by
  intro s t h
  have htext : p.opening s ++ s.toList ++ p.closing = p.opening t ++ t.toList ++ p.closing := by
    rw [← toList_paintAs, ← toList_paintAs]
    exact congrArg String.toList h
  have hopening : (p.opening s).length = (p.opening t).length := by
    rw [length_opening, length_opening]
  obtain ⟨-, hst⟩ := List.append_inj (List.append_cancel_right htext) hopening
  exact String.toList_inj.mp hst

/-! ### What is shown -/

variable {p} {text : String}

/-- Of a painted text the text is shown. -/
theorem strip_paint (h : ¬ Escape.IsUnterminated text) (codes : List Nat) :
    Escape.strip (p.paint codes text) = Escape.strip text := by
  unfold paint
  split
  · exact Escape.strip_graphic h codes
  · rfl

/-- A painted text ends inside an escape sequence only if the text does. -/
theorem not_isUnterminated_paint (h : ¬ Escape.IsUnterminated text) (codes : List Nat) :
    ¬ Escape.IsUnterminated (p.paint codes text) := by
  unfold paint
  split
  · exact Escape.not_isUnterminated_graphic h codes
  · exact h

/-- Paint adds nine bytes to a text: five for the start of a colour, and four for the reset. -/
theorem utf8ByteSize_paintAs (token text : String) :
    (paintAs ⟨true⟩ token text).utf8ByteSize = text.utf8ByteSize + 9 := by
  have hopening : (Escape.attributes [Style.colorOf token]).utf8ByteSize = 5 := by
    unfold Style.colorOf
    split <;> rfl
  have hclosing : (Escape.attributes [0]).utf8ByteSize = 4 := rfl
  rw [paintAs, paint_colored (List.cons_ne_nil _ _), Escape.graphic, String.utf8ByteSize_append,
    String.utf8ByteSize_append, hopening, hclosing]
  omega

/-- **Colour is invisible exactly around a closed text**, one that does not end inside an escape
sequence.

* Around any display attributes what is shown of a closed text is shown, and of any other text two
  characters of the reset as well.
* A closed text takes the same columns, whatever word or glyph gives it a colour.
* A colour takes nine bytes, whether the word or glyph has a colour of its own or not. -/
theorem color_invisible_iff_closed (text : String) :
    (∀ codes : List Nat, codes ≠ [] →
      Escape.strip (paint ⟨true⟩ codes text) =
        (if Escape.IsUnterminated text then Escape.strip text ++ "0m" else Escape.strip text) ∧
      (Escape.strip (paint ⟨true⟩ codes text) = Escape.strip text ↔
        ¬ Escape.IsUnterminated text)) ∧
    (¬ Escape.IsUnterminated text → ∀ (p : Painter) (token : String),
      visibleWidth (p.paintAs token text) = visibleWidth text) ∧
    ∀ token : String, (paintAs ⟨true⟩ token text).utf8ByteSize = text.utf8ByteSize + 9 := by
  refine ⟨fun codes hcodes => ?_, fun h p token => ?_, fun token => utf8ByteSize_paintAs token text⟩
  · rw [paint_colored hcodes]
    by_cases h : Escape.IsUnterminated text
    · rw [Escape.strip_graphic_of_isUnterminated h, if_pos h]
      simp [h]
    · rw [Escape.strip_graphic h, if_neg h]
      simp [h]
  · rw [visibleWidth, paintAs, strip_paint h, visibleWidth]

/-- The reset ends the sequence that the text has left open, and is seen itself. -/
example : Escape.strip (paint ⟨true⟩ [31] "up\x1b[1") = "up0m" := by decide

end Painter

end RolloutTree
