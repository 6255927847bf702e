import RolloutTree.Json.Value

/-!
# Decoding JSON values

A decoder gives the meaning of a value, or nothing when the value has another form than is asked
for. The parts of a structure are read by name; members with other names do not matter.

There are two kinds of structure. A *schema object* has to be an object. A *record* may also be an
array, whose items are its fields in their order; fields that are missing at the end are absent, and
an item too many is an error.

## Main definitions

* `Decoder`, and the decoders of texts, flags, integers, lists and maps.
* `Fields`: the values under the names of a structure, with `Fields.ofObject?`, `Fields.ofRecord?`.
* `Fields.optional`: a field that may be absent or null.
* `Fields.withDefault`: a field that may be absent, but not null.
-/

namespace RolloutTree

/-- Gives the meaning of a value that has the right form. -/
abbrev Decoder (α : Type) := Json → Option α

namespace Decode

/-- A text. -/
def text : Decoder String
  | .string s => some s
  | _ => none

/-- A truth value. -/
def flag : Decoder Bool
  | .bool b => some b
  | _ => none

/-- An integer between two bounds, the bounds included. -/
def integer (least greatest : Int) : Decoder Int
  | .number (.int n) => if least ≤ n ∧ n ≤ greatest then some n else none
  | _ => none

/-- An integer of 32 bits with a sign. -/
def int32 : Decoder Int32 := fun v => (integer (-2147483648) 2147483647 v).map Int32.ofInt

/-- An integer of 64 bits with a sign. -/
def int64 : Decoder Int := integer (-9223372036854775808) 9223372036854775807

/-- A list of values of one kind. -/
def list {α : Type} (item : Decoder α) : Decoder (List α)
  | .array items => items.mapM item
  | _ => none

/-- Any object. -/
def object : Decoder Unit
  | .object _ => some ()
  | _ => none

/-- A map from texts to texts. -/
def textMap : Decoder (List (String × String))
  | .object members => members.mapM fun (name, v) => (text v).map (name, ·)
  | _ => none

/-- A value or null. -/
def nullable {α : Type} (value : Decoder α) : Decoder (Option α)
  | .null => some none
  | v => (value v).map some

end Decode

/-- The values under the names of a structure. -/
structure Fields where
  find? : String → Option Json

namespace Fields

/-- The members of an object. -/
def ofObject? : Json → Option Fields
  | .object members => some ⟨fun name => members.lookup name⟩
  | _ => none

/-- The members of an object, or the items of an array that is no longer than the names. -/
def ofRecord? (names : List String) : Json → Option Fields
  | .object members => some ⟨fun name => members.lookup name⟩
  | .array items =>
    if items.length ≤ names.length then some ⟨fun name => (names.zip items).lookup name⟩ else none
  | _ => none

/-- A field that may be absent or null. -/
def optional {α : Type} (f : Fields) (name : String) (value : Decoder α) : Option (Option α) :=
  match f.find? name with
  | none => some none
  | some v => Decode.nullable value v

/-- A field that may be absent; null is no value of it. -/
def withDefault {α : Type} (f : Fields) (name : String) (default : α) (value : Decoder α) :
    Option α :=
  match f.find? name with
  | none => some default
  | some v => value v

/-- A field that may be absent or null, with the value that it has then. -/
def orDefault {α : Type} (f : Fields) (name : String) (default : α) (value : Decoder α) :
    Option α :=
  (f.optional name value).map (·.getD default)

/-- A field that has to be present. -/
def required {α : Type} (f : Fields) (name : String) (value : Decoder α) : Option α :=
  (f.find? name).bind value

end Fields

end RolloutTree
