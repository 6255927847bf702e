/-!
# Terminal escape sequences

A text for a terminal holds characters that are shown and sequences that are not. The only
sequences known here start with `ESC [` and run through the first character from `@` to `~`; an
`ESC` that does not start one is dropped alone.

## Main definitions

* `Scan`: where a reader of such a text stands, with `Scan.next` and `Scan.shows`.
* `strip`: the characters that are shown.
* `graphic`: a text between a sequence that sets display attributes and the one that resets them.
* `clearScreen`: the sequences that empty the screen and put the cursor into its first cell.
-/

namespace RolloutTree.Escape

/-- The character that starts an escape sequence. -/
def esc : Char := '\x1b'

/-- Where a reader of a terminal text stands. -/
inductive Scan where
  /-- Between sequences. -/
  | text
  /-- Right after an `ESC`. -/
  | escape
  /-- After `ESC [`, before the character that ends the sequence. -/
  | control
  deriving DecidableEq, Repr

/-- Whether the character ends a sequence that `ESC [` started. -/
def isFinal (c : Char) : Bool := '@' ≤ c && c ≤ '~'

namespace Scan

/-- Where the reader stands after one more character. -/
def next : Scan → Char → Scan
  | text, c => if c = esc then escape else text
  | escape, c => if c = '[' then control else if c = esc then escape else text
  | control, c => if isFinal c then text else control

/-- Whether the character is shown when the reader meets it there. -/
def shows : Scan → Char → Bool
  | text, c => c != esc
  | escape, c => c != '[' && c != esc
  | control, _ => false

/-- Where the reader stands after the characters. -/
def run (s : Scan) (cs : List Char) : Scan := cs.foldl next s

@[simp] theorem run_nil (s : Scan) : s.run [] = s := rfl

@[simp] theorem run_cons (s : Scan) (c : Char) (cs : List Char) :
    s.run (c :: cs) = (s.next c).run cs := rfl

theorem run_append (s : Scan) (a b : List Char) : s.run (a ++ b) = (s.run a).run b :=
  List.foldl_append

end Scan

/-- The characters that are shown of a text met at the given place. -/
def stripFrom : Scan → List Char → List Char
  | _, [] => []
  | s, c :: cs => if s.shows c then c :: stripFrom (s.next c) cs else stripFrom (s.next c) cs

/-- Reading a text in two parts shows what reading it at once shows. -/
theorem stripFrom_append (s : Scan) (a b : List Char) :
    stripFrom s (a ++ b) = stripFrom s a ++ stripFrom (s.run a) b := by
  induction a generalizing s with
  | nil => rfl
  | cons c a ih =>
    simp only [List.cons_append, stripFrom, Scan.run_cons, ih]
    split <;> rfl

/-- The characters of the text that are shown. -/
def strip (s : String) : String := String.ofList (stripFrom .text s.toList)

/-- The sequence that sets display attributes, given by their numbers. -/
def attributes (codes : List Nat) : String :=
  "\x1b[" ++ ";".intercalate (codes.map toString) ++ "m"

/-- The text with the display attributes set before it and reset after it. -/
def graphic (codes : List Nat) (text : String) : String :=
  attributes codes ++ text ++ attributes [0]

/-- Cursor home, erase the display, cursor to the first cell. -/
def clearScreen : String := "\x1b[H\x1b[2J\x1b[0;0H"

end RolloutTree.Escape
