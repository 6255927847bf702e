import RolloutTree.Json.Value

/-!
# Paths into JSON values

A path starts at the root of a value, or inside a filter at the value that is tested, and descends
by segments. A segment selects among the children of a value, or among those of everything below it.

## Main definitions

* `Selector`, `Segment`, `Condition`, `Operand`: the parts of paths.
* `Path`: a path from the root.
* `isSingular`: whether segments lead to one value at most.
-/

namespace RolloutTree.JsonPath

/-- Where a path starts. -/
inductive Origin where
  | root
  /-- The value that a filter tests. -/
  | current
  deriving DecidableEq, Repr

/-- How two operands are compared. -/
inductive Comparison where
  | equal
  | different
  | less
  | atMost
  | greater
  | atLeast
  deriving DecidableEq, Repr

mutual

/-- Selects among the children of a value. -/
inductive Selector where
  | name (name : String)
  | wildcard
  /-- An index, from the end if it is negative. -/
  | index (index : Int)
  | slice (start stop : Option Int) (step : Int)
  | filter (condition : Condition)

/-- One step of a path. -/
inductive Segment where
  | children (selectors : List Selector)
  | descendants (selectors : List Selector)

/-- What a filter asks of a value. -/
inductive Condition where
  | either (a b : Condition)
  | both (a b : Condition)
  | negation (a : Condition)
  | existence (origin : Origin) (segments : List Segment)
  | comparison (relation : Comparison) (a b : Operand)

/-- What is compared. -/
inductive Operand where
  | literal (value : Json)
  /-- The value that a path leads to. -/
  | query (origin : Origin) (segments : List Segment)
  /-- The size of a text, an array or an object. -/
  | length (a : Operand)
  /-- The number of values that a path leads to. -/
  | count (origin : Origin) (segments : List Segment)

end

/-- A path from the root. -/
structure Path where
  segments : List Segment

/-- Whether the selector selects one child at most. -/
def Selector.isSingular : Selector → Bool
  | name _ | index _ => true
  | _ => false

/-- Whether the segment leads to one value at most. -/
def Segment.isSingular : Segment → Bool
  | children [selector] => selector.isSingular
  | _ => false

/-- Whether the segments lead to one value at most. -/
def isSingular (segments : List Segment) : Bool := segments.all Segment.isSingular

end RolloutTree.JsonPath
