import RolloutTree.Text.Escape
import RolloutTree.Text.Width

/-!
# Colours of words and glyphs

A word or glyph with a meaning of its own has a colour; every other text gets the default
foreground. Whether colours are used at all depends on the terminal.

## Main definitions

* `Style.colorOf`: the colour number of a word or glyph.
* `Terminal`: what is known of the terminal, and `Terminal.isColored`.
* `Painter`: paints with colour or not at all.
* `visibleWidth`: the columns of a text whose escape sequences are not shown.
-/

namespace RolloutTree

namespace Style

/-- The default foreground. -/
def defaultColor : Nat := 39

/-- The colour number of a word or glyph that has a meaning of its own, and the default foreground
of any other text. -/
def colorOf : String → Nat
  | "◷" => 33
  | "◌" => 94
  | "⚠" => 31
  | "?" => 33
  | "✔" => 32
  | "✖" => 31
  | "canary" => 33
  | "stable" => 32
  | "active" => 32
  | "preview" => 94
  | "ping" => 94
  | "pong" => 94
  | "Pending" => 94
  | "Running" => 94
  | _ => defaultColor

end Style

/-- What is known of the terminal: the user's choice against colour and the terminal's type. -/
structure Terminal where
  noColor : Bool := false
  type : Option String := none
  deriving DecidableEq, Repr

/-- Colours are used unless the user declines them or the terminal is a dumb one. -/
def Terminal.isColored (t : Terminal) : Bool := !t.noColor && t.type != some "dumb"

/-- Paints texts, with colour or not at all. -/
structure Painter where
  isColored : Bool
  deriving DecidableEq, Repr

namespace Painter

/-- The painter for a terminal. -/
def ofTerminal (t : Terminal) : Painter := ⟨t.isColored⟩

/-- The text with the display attributes, or as it is without colour or attributes. -/
def paint (p : Painter) (codes : List Nat) (text : String) : String :=
  if p.isColored && !codes.isEmpty then Escape.graphic codes text else text

/-- The text in the colour of a word or glyph. -/
def paintAs (p : Painter) (token text : String) : String := p.paint [Style.colorOf token] text

/-- A word or glyph in its own colour. -/
def paintToken (p : Painter) (token : String) : String := p.paintAs token token

theorem paint_colored {codes : List Nat} (h : codes ≠ []) (text : String) :
    paint ⟨true⟩ codes text = Escape.graphic codes text := by
  simp [paint, h]

end Painter

/-- The columns that the text takes on a terminal, which does not show its escape sequences. -/
def visibleWidth (s : String) : Nat := Text.Width.columns (Escape.strip s)

end RolloutTree
