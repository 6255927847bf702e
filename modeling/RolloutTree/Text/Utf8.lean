/-!
# Bytes that are a text

Bytes are a text if each of its characters stands in them by its code in one to four bytes. Where
bytes are none, it is told where the first character is missing, and how many bytes there start like
a character but do not go on like one.

## Main definitions

* `Utf8.Fault`, with its message: where bytes are no text.
* `Utf8.decode`: the text of the bytes, or where they are none.
-/

namespace RolloutTree.Text.Utf8

/-- Where bytes are no text. -/
structure Fault where
  /-- The number of bytes before the place, which are a text. -/
  place : Nat
  /-- The number of bytes at the place that are no character; none if the bytes end too early. -/
  length? : Option Nat
  deriving DecidableEq, Repr

/-- The message. -/
def Fault.message (f : Fault) : String :=
  match f.length? with
  | some length =>
    "invalid utf-8 sequence of " ++ toString length ++ " bytes from index " ++ toString f.place
  | none => "incomplete utf-8 byte sequence from index " ++ toString f.place

/-- The place behind all characters that stand one after the other from a place on. -/
def textEnd (bytes : ByteArray) (place : Nat) : Nat :=
  match _h : bytes.utf8DecodeChar? place with
  | some c => textEnd bytes (place + c.utf8Size)
  | none => place
termination_by bytes.size - place
decreasing_by
  have hlt : place < bytes.size :=
    ByteArray.lt_size_of_isSome_utf8DecodeChar? (Option.isSome_of_eq_some _h)
  have hpos := c.utf8Size_pos
  omega

/-- The ranges of the bytes that follow the first byte of a character, one after the other; none if
no character of several bytes starts with the byte. -/
def followers (first : UInt8) : List (UInt8 × UInt8) :=
  if first = 0xE0 then [(0xA0, 0xBF), (0x80, 0xBF)]
  else if first = 0xED then [(0x80, 0x9F), (0x80, 0xBF)]
  else if first = 0xF0 then [(0x90, 0xBF), (0x80, 0xBF), (0x80, 0xBF)]
  else if first = 0xF4 then [(0x80, 0x8F), (0x80, 0xBF), (0x80, 0xBF)]
  else if 0xC2 ≤ first && first ≤ 0xDF then [(0x80, 0xBF)]
  else if 0xE1 ≤ first && first ≤ 0xEF then [(0x80, 0xBF), (0x80, 0xBF)]
  else if 0xF1 ≤ first && first ≤ 0xF3 then [(0x80, 0xBF), (0x80, 0xBF), (0x80, 0xBF)]
  else []

/-- How many bytes go on as they may before one does not; none if they end before. -/
def brokenAfter? : List (UInt8 × UInt8) → List UInt8 → Option Nat
  | [], _ => some 0
  | _ :: _, [] => none
  | (least, greatest) :: ranges, byte :: bytes =>
    if least ≤ byte && byte ≤ greatest then (brokenAfter? ranges bytes).map (· + 1) else some 0

/-- How many bytes at the start of the bytes, which do not start with a character, are none. -/
def brokenLength? : List UInt8 → Option Nat
  | [] => none
  | first :: bytes => (brokenAfter? (followers first) bytes).map (· + 1)

/-- Where the first character is missing. -/
def fault (bytes : ByteArray) : Fault :=
  let place := textEnd bytes 0
  { place, length? := brokenLength? (bytes.toList.drop place) }

/-- The text of the bytes, or where they are none. -/
def decode (bytes : ByteArray) : Except Fault String :=
  match String.fromUTF8? bytes with
  | some text => .ok text
  | none => .error (fault bytes)

/-- The bytes of a text are that text. -/
theorem decode_toUTF8 (text : String) : decode text.toUTF8 = .ok text := by
  have htext : String.fromUTF8? text.toUTF8 = some text := by
    rw [String.fromUTF8?, String.toUTF8_eq_toByteArray, dif_pos text.isValidUTF8]
    rfl
  rw [decode, htext]

/-- Bytes are the bytes of one text, or they are at fault. -/
theorem decode_eq_ok_iff {bytes : ByteArray} {text : String} :
    decode bytes = .ok text ↔ text.toUTF8 = bytes := by
  constructor
  · intro h
    rw [decode, String.fromUTF8?] at h
    split at h
    · rename_i hsome
      split at hsome
      · rw [← Except.ok.inj h, ← Option.some.inj hsome]
        rfl
      · exact nomatch hsome
    · exact nomatch h
  · rintro rfl
    exact decode_toUTF8 text

/-- Bytes that are those of no text are at fault. -/
theorem decode_eq_error {bytes : ByteArray} (h : ∀ text : String, text.toUTF8 ≠ bytes) :
    decode bytes = .error (fault bytes) := by
  unfold decode
  split
  · rename_i text htext
    exact absurd (decode_eq_ok_iff.mp (by rw [decode, htext])) (h text)
  · rfl

-- a character that the bytes cut off, and the first byte of half a surrogate pair
example : decode ⟨#[0x61, 0xE2, 0x82]⟩ = .error ⟨1, none⟩ := by cbv
example : decode ⟨#[0xED, 0xA0, 0x80]⟩ = .error ⟨0, some 1⟩ := by cbv

end RolloutTree.Text.Utf8
