import RolloutTree.JsonPath.Syntax

/-!
# Following a path

A path leads to a list of values, in the order in which they are met: a value before those below it,
the items of an array in their order, the members of an object in the order of their names.

## Main definitions

* `childValues`, `allBelow`: the values right below a value, and all of them with the value itself.
* `Selector.select`, `walk`: where selectors and segments lead.
* `Condition.holds`: whether a value passes a filter.
* `Path.query`: the values that a path leads to.
-/

namespace RolloutTree

/-! ### Comparing values -/

namespace Number

/-- The sign, the digits and the exponent of the number. -/
def scientific : Number → Bool × Nat × Int
  | int value => (value < 0, value.natAbs, 0)
  | decimal isNegative digits exponent => (isNegative, digits, exponent)

/-- Whether a magnitude is smaller than another; both are digits with an exponent. -/
def isSmaller (digits : Nat) (exponent : Int) (digits' : Nat) (exponent' : Int) : Bool :=
  if digits = 0 || digits' = 0 then digits = 0 && digits' ≠ 0
  else
    let top := (toString digits).length + exponent
    let top' := (toString digits').length + exponent'
    if top ≠ top' then top < top'
    else
      let least := min exponent exponent'
      digits * Nat.pow 10 (exponent - least).toNat <
        digits' * Nat.pow 10 (exponent' - least).toNat

/-- Whether the number is less than another. -/
def isLess (a b : Number) : Bool :=
  let (isNegative, digits, exponent) := a.scientific
  let (isNegative', digits', exponent') := b.scientific
  match isNegative && digits ≠ 0, isNegative' && digits' ≠ 0 with
  | true, false => true
  | false, true => false
  | false, false => isSmaller digits exponent digits' exponent'
  | true, true => isSmaller digits' exponent' digits exponent

end Number

namespace Json

mutual

/-- Whether two values are the same; the order of members does not count. -/
def isSame : Json → Json → Bool
  | null, null => true
  | bool a, bool b => a == b
  | number a, number b => !a.isLess b && !b.isLess a
  | string a, string b => a == b
  | array as, array bs => areSame as bs
  | object as, object bs => as.length == bs.length && haveSame as bs
  | _, _ => false

/-- Whether two lists have the same values. -/
def areSame : List Json → List Json → Bool
  | [], [] => true
  | a :: as, b :: bs => isSame a b && areSame as bs
  | _, _ => false

/-- Whether every member is among the others. -/
def haveSame : List (String × Json) → List (String × Json) → Bool
  | [], _ => true
  | (name, a) :: as, bs =>
    (match bs.lookup name with
      | some b => isSame a b
      | none => false) && haveSame as bs

end

end Json

namespace JsonPath

/-- How two operands compare, of which each may have no value. -/
def Comparison.holds (relation : Comparison) (a b : Option Json) : Bool :=
  let same := match a, b with
    | some a, some b => a.isSame b
    | none, none => true
    | _, _ => false
  let precedes (a b : Option Json) : Bool := match a, b with
    | some (.number a), some (.number b) => a.isLess b
    | some (.string a), some (.string b) => a < b
    | _, _ => false
  match relation with
  | equal => same
  | different => !same
  | less => precedes a b
  | atMost => precedes a b || same
  | greater => precedes b a
  | atLeast => precedes b a || same

/-! ### Values below a value -/

/-- The values right below the value. -/
def childValues : Json → List Json
  | .array items => items
  | .object members => (members.mergeSort fun a b => decide (a.1 ≤ b.1)).map (·.2)
  | _ => []

/-- The value and everything below it, so many levels down. -/
def levels : Nat → Json → List Json
  | 0, _ => []
  | depth + 1, v => v :: (childValues v).flatMap (levels depth)

mutual

/-- The number of levels of the value. -/
def depth : Json → Nat
  | .array items => 1 + depths items
  | .object members => 1 + memberDepths members
  | _ => 1

/-- The number of levels of the deepest value. -/
def depths : List Json → Nat
  | [] => 0
  | v :: vs => max (depth v) (depths vs)

/-- The number of levels of the deepest member. -/
def memberDepths : List (String × Json) → Nat
  | [] => 0
  | (_, v) :: vs => max (depth v) (memberDepths vs)

end

/-- The value and everything below it, each value before those below it. -/
def allBelow (v : Json) : List Json := levels (depth v) v

/-- The place that an index means in an array of the size, from the end if it is negative. -/
def place (size : Nat) (index : Int) : Int := if index < 0 then index + size else index

/-- The places of a slice of an array of the size. -/
def slicePlaces (size : Nat) (start stop : Option Int) (step : Int) : List Nat :=
  let clamp (least greatest v : Int) := max least (min greatest v)
  if 0 < step then
    let first := clamp 0 size (place size (start.getD 0))
    let last := clamp 0 size (place size (stop.getD size))
    (List.range size).filter fun i =>
      first ≤ i && (i : Int) < last && ((i : Int) - first) % step = 0
  else if step < 0 then
    let first := clamp (-1) (size - 1) (place size (start.getD (size - 1)))
    let last := clamp (-1) (size - 1) (place size (stop.getD (-(size : Int) - 1)))
    (List.range size).reverse.filter fun i =>
      (i : Int) ≤ first && last < i && (first - (i : Int)) % (-step) = 0
  else []

/-- The size of a text, an array or an object. -/
def size? : Json → Option Nat
  | .string s => some s.length
  | .array items => some items.length
  | .object members => some members.length
  | _ => none

/-- The only value of a list. -/
def only? : List Json → Option Json
  | [v] => some v
  | _ => none

/-! ### Paths -/

mutual

/-- The children of a value that the selector selects. -/
def Selector.select (root : Json) : Selector → Json → List Json
  | .name name, v => (v.member? name).toList
  | .wildcard, v => childValues v
  | .index index, v =>
    match v with
    | .array items =>
      let i := place items.length index
      if 0 ≤ i then items[i.toNat]?.toList else []
    | _ => []
  | .slice start stop step, v =>
    match v with
    | .array items => (slicePlaces items.length start stop step).filterMap (items[·]?)
    | _ => []
  | .filter condition, v => (childValues v).filter fun child => Condition.holds root condition child

/-- The children of a value that the selectors select, one selector after the other. -/
def selectAll (root : Json) : List Selector → Json → List Json
  | [], _ => []
  | selector :: rest, v => Selector.select root selector v ++ selectAll root rest v

/-- Where the segment leads from a value. -/
def Segment.follow (root : Json) : Segment → Json → List Json
  | .children selectors, v => selectAll root selectors v
  | .descendants selectors, v => (allBelow v).flatMap fun below => selectAll root selectors below

/-- Where the segments lead from the values. -/
def walk (root : Json) : List Segment → List Json → List Json
  | [], vs => vs
  | segment :: rest, vs => walk root rest (vs.flatMap fun v => Segment.follow root segment v)

/-- Whether the value passes. -/
def Condition.holds (root : Json) : Condition → Json → Bool
  | .either a b, v => Condition.holds root a v || Condition.holds root b v
  | .both a b, v => Condition.holds root a v && Condition.holds root b v
  | .negation a, v => !Condition.holds root a v
  | .existence .root segments, _ => !(walk root segments [root]).isEmpty
  | .existence .current segments, v => !(walk root segments [v]).isEmpty
  | .comparison relation a b, v =>
    relation.holds (Operand.value? root a v) (Operand.value? root b v)

/-- The value of the operand, if it has one. -/
def Operand.value? (root : Json) : Operand → Json → Option Json
  | .literal value, _ => some value
  | .query .root segments, _ => only? (walk root segments [root])
  | .query .current segments, v => only? (walk root segments [v])
  | .length a, v => ((Operand.value? root a v).bind size?).map .ofNat
  | .count .root segments, _ => some (.ofNat (walk root segments [root]).length)
  | .count .current segments, v => some (.ofNat (walk root segments [v]).length)

end

/-- The values that the path leads to. -/
def Path.query (p : Path) (v : Json) : List Json := walk v p.segments [v]

end JsonPath

end RolloutTree
