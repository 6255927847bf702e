/-!
# JSON values

The members of an object keep the order in which they were written; an object that was read from a
text has each name once. A number keeps whether it was written as an integer, because a place that
asks for an integer takes no other.

## Main definitions

* `Number`, `Json`.
* `Json.member?`: the value under a name of an object.
-/

namespace RolloutTree

/-- A number as it was written. -/
inductive Number where
  /-- Digits with or without a sign. -/
  | int (value : Int)
  /-- With a fraction or an exponent: the digits scaled by a power of ten. -/
  | decimal (isNegative : Bool) (digits : Nat) (exponent : Int)
  deriving DecidableEq, Repr

/-- A JSON value. -/
inductive Json where
  | null
  | bool (value : Bool)
  | number (value : Number)
  | string (value : String)
  | array (items : List Json)
  | object (members : List (String × Json))
  deriving Repr, Inhabited

namespace Json

/-- An integer. -/
def ofInt (value : Int) : Json := .number (.int value)

/-- A natural number. -/
def ofNat (value : Nat) : Json := .ofInt value

/-- The value under the name, if this is an object with such a member. -/
def member? (v : Json) (name : String) : Option Json :=
  match v with
  | object members => members.lookup name
  | _ => none

end Json

end RolloutTree
