import SlideContract.Json.Equal
import SlideContract.Sorting.Sort

/-!
# Unique items

The items of a list are unique if no two of them are equal. Items that can all be put in an order
are compared with their neighbours in that order; all others are compared in pairs. In the order a
boolean inside a list counts as the number zero or one, so that a boolean may come to stand between
two equal numbers and keep them apart.
-/

namespace SlideContract.Json

/-- The number that a value counts as, a boolean being zero or one. -/
def number? : Json → Option Number
  | .num n => some n
  | .bool b => some (.int (if b then 1 else 0))
  | _ => none

mutual

/-- The two values count as equal in an order, where booleans are numbers. -/
def alike : Json → Json → Bool
  | .null, .null => true
  | .str a, .str b => a == b
  | .arr a, .arr b => alikeItems a b
  | .obj a, .obj b => a.length == b.length && alikeMembers a b
  | .bool a, b => (number? b).any (sameNumber (.int (if a then 1 else 0)))
  | .num a, b => (number? b).any (sameNumber a)
  | _, _ => false

/-- The two lists count as equal in an order. -/
def alikeItems : List Json → List Json → Bool
  | [], [] => true
  | a :: as, b :: bs => alike a b && alikeItems as bs
  | _, _ => false

/-- Each of the first members has one of its name among the second that counts as equal. -/
def alikeMembers : List (String × Json) → List (String × Json) → Bool
  | [], _ => true
  | (name, a) :: rest, others =>
    (match Entries.get? name others with
      | some b => alike a b
      | none => false) && alikeMembers rest others

end

mutual

/-- The first value comes before the second; none if the two cannot be ordered. -/
def before? : Json → Json → Option Bool
  | .str a, .str b => some (a < b)
  | .arr a, .arr b => beforeItems? a b
  | .bool a, b => (number? b).map fun n => Number.lt (.int (if a then 1 else 0)) n
  | .num a, b => (number? b).map fun n => Number.lt a n
  | _, _ => none

/-- The first list comes before the second: at the first items that differ, or by being shorter. -/
def beforeItems? : List Json → List Json → Option Bool
  | [], [] => some false
  | [], _ :: _ => some true
  | _ :: _, [] => some false
  | a :: as, b :: bs => if alike a b then beforeItems? as bs else before? a b

end

/-- The first item comes before the second; a boolean that stands alone has no order. -/
def itemBefore? (a b : Json) : Option Bool :=
  match a, b with
  | .bool _, _ | _, .bool _ => none
  | _, _ => before? a b

/-- Two neighbours are equal. -/
def hasEqualNeighbours : List Json → Bool
  | a :: b :: rest => equal a b || hasEqualNeighbours (b :: rest)
  | _ => false

/-- Two of the items are equal. -/
def hasEqualPair : List Json → Bool
  | [] => false
  | a :: rest => rest.any (equal a) || hasEqualPair rest

/-- No two of the items count as equal. -/
def areUnique (items : List Json) : Bool :=
  match Sorting.sort? itemBefore? items.toArray with
  | some ordered => !hasEqualNeighbours ordered.toList
  | none => !hasEqualPair items

end SlideContract.Json
