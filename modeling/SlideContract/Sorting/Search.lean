/-!
# Searching in order

Items are compared by a test that may fail, and that need not be an order at all. How many items
from the front satisfy a condition is found with few tests: by strides from a first guess, each
about twice as long as the one before, and then by halving what the last stride spans. The answer
is exact if the condition holds up to some place and not behind it; otherwise it is still settled
by which items are looked at.
-/

namespace SlideContract.Sorting

/-- Whether the first item comes before the second, unless the two cannot be compared. -/
abbrev Comparison (α : Type) := α → α → Option Bool

/-- A stretch of `size` items from the place `start` on. -/
structure Stretch (α : Type) where
  items : Array α
  start : Nat
  size : Nat

namespace Stretch

variable {α : Type}

/-- The stretch of all items. -/
def all (items : Array α) : Stretch α := ⟨items, 0, items.size⟩

/-- The item at a place in a stretch. -/
def item? (s : Stretch α) (i : Nat) : Option α := s.items[s.start + i]?

/-- The items of a stretch. -/
def toArray (s : Stretch α) : Array α := s.items.extract s.start (s.start + s.size)

/-- The place at which the condition stops to hold between `low` and `high`, found by halving. -/
def halve? (holds : α → Option Bool) (s : Stretch α) : Nat → Nat → Nat → Option Nat
  | 0, low, _ => some low
  | fuel + 1, low, high =>
    if high ≤ low then some low
    else do
      let middle := low + (high - low) / 2
      if ← holds (← s.item? middle) then halve? holds s fuel (middle + 1) high
      else halve? holds s fuel low middle

/-- The last stride that goes on and the one after it, which is `limit` at most. -/
def strides? (goesOn : Nat → Option Bool) (limit : Nat) : Nat → Nat → Nat → Option (Nat × Nat)
  | 0, last, next => some (last, min next limit)
  | fuel + 1, last, next =>
    if limit ≤ next then some (last, limit)
    else do
      if ← goesOn next then strides? goesOn limit fuel next (2 * next + 1)
      else some (last, next)

/-- The number of items from the front that satisfy a condition, searched for from a guess. -/
def count? (holds : α → Option Bool) (s : Stretch α) (guess : Nat) : Option Nat := do
  let holdsAt (i : Nat) : Option Bool := do holds (← s.item? i)
  if ← holdsAt guess then
    let (last, next) ←
      strides? (fun stride => holdsAt (guess + stride)) (s.size - guess) s.size 0 1
    halve? holds s s.size (guess + last + 1) (guess + next)
  else
    let (last, next) ←
      strides? (fun stride => (holdsAt (guess - stride)).map not) (guess + 1) s.size 0 1
    halve? holds s s.size (guess + 1 - next) (guess - last)

end Stretch
end SlideContract.Sorting
