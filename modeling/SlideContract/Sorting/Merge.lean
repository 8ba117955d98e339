import SlideContract.Sorting.Search

/-!
# Merging two runs

Two runs that stand one behind the other become one. The merge goes from the front or from the
back; item by item as long as the runs take turns, and by whole stretches once one of them has won
often enough in a row. How often is enough changes as such stretches turn out to be long or short.
-/

namespace SlideContract.Sorting

/-- The end that a merge begins at. -/
inductive Side where
  | front
  | back
  deriving DecidableEq, Repr

/-- What a merge has left of the two runs, and the items that it has taken so far, in the order of
taking. A merge from the front holds the first run while the second one moves past it, one from the
back holds the second. -/
structure Merge (α : Type) where
  side : Side
  held : Stretch α
  moving : Stretch α
  taken : Array α

/-- The length from which a stretch counts as long. -/
def longStretch : Nat := 7

variable {α : Type}

namespace Stretch

/-- The item at an end. -/
def endItem? (s : Stretch α) : Side → Option α
  | .front => s.item? 0
  | .back => s.item? (s.size - 1)

/-- The stretch without `count` items at an end. -/
def without (s : Stretch α) (count : Nat) : Side → Stretch α
  | .front => { s with start := s.start + count, size := s.size - count }
  | .back => { s with size := s.size - count }

/-- The items at an end, from the end inwards, behind the given ones. -/
def appendEnd (s : Stretch α) (count : Nat) (side : Side) (taken : Array α) : Array α :=
  match side with
  | .front => taken ++ s.items.extract s.start (s.start + count)
  | .back => taken ++ (s.items.extract (s.start + s.size - count) (s.start + s.size)).reverse

/-- The number of items at an end that satisfy a condition, which the front ones do, or the back
ones do not. -/
def countEnd? (s : Stretch α) (holds : α → Option Bool) : Side → Option Nat
  | .front => s.count? holds 0
  | .back => do return s.size - (← s.count? holds (s.size - 1))

/-- The number of items at an end of the first of two runs that belong before or behind `key`, an
item of the second run. -/
def countFirst? (less : Comparison α) (s : Stretch α) (key : α) (side : Side) : Option Nat :=
  s.countEnd? (fun x => (less key x).map not) side

/-- The number of items at an end of the second of two runs that belong before or behind `key`, an
item of the first run. -/
def countSecond? (less : Comparison α) (s : Stretch α) (key : α) (side : Side) : Option Nat :=
  s.countEnd? (fun x => less x key) side

end Stretch

namespace Merge

/-- Only one order is left for the remaining items. -/
def isFinished (m : Merge α) : Bool := m.held.size ≤ 1 || m.moving.size == 0

/-- The merge after taking items of the held run. -/
def takeHeld (m : Merge α) (count : Nat) : Merge α :=
  { m with
    held := m.held.without count m.side
    taken := m.held.appendEnd count m.side m.taken }

/-- The merge after taking items of the moving run. -/
def takeMoving (m : Merge α) (count : Nat) : Merge α :=
  { m with
    moving := m.moving.without count m.side
    taken := m.moving.appendEnd count m.side m.taken }

/-- Every item in order, once the merge is finished: what is left of the moving run comes before
what is left of the held one, seen from the side of the merge. -/
def result (m : Merge α) : Array α :=
  let m := m.takeMoving m.moving.size
  let m := m.takeHeld m.held.size
  match m.side with
  | .front => m.taken
  | .back => m.taken.reverse

/-- The moving run gives the next item: from the front, if it comes before that of the held run;
from the back, if it comes behind. -/
def movingWins? (less : Comparison α) (m : Merge α) : Option Bool := do
  let held ← m.held.endItem? m.side
  let moving ← m.moving.endItem? m.side
  match m.side with
  | .front => less moving held
  | .back => less held moving

/-- The merge item by item, until it is finished or one run has won `enough` times in a row. -/
def inTurns? (less : Comparison α) (enough : Nat) : Nat → Nat → Nat → Merge α → Option (Merge α)
  | 0, _, _, m => some m
  | fuel + 1, heldWins, movingWins, m =>
    if m.isFinished || enough ≤ heldWins || enough ≤ movingWins then some m
    else do
      if ← m.movingWins? less then inTurns? less enough fuel 0 (movingWins + 1) (m.takeMoving 1)
      else inTurns? less enough fuel (heldWins + 1) 0 (m.takeHeld 1)

/-- The merge after a stretch of the held run and one item of the moving run, and the length of the
stretch. -/
def heldStretch? (less : Comparison α) (m : Merge α) : Option (Merge α × Nat) := do
  let key ← m.moving.endItem? m.side
  let count ←
    match m.side with
    | .front => m.held.countFirst? less key .front
    | .back => m.held.countSecond? less key .back
  let m := m.takeHeld count
  return (if m.isFinished then m else m.takeMoving 1, count)

/-- The merge after a stretch of the moving run and one item of the held run, and the length of the
stretch. -/
def movingStretch? (less : Comparison α) (m : Merge α) : Option (Merge α × Nat) := do
  let key ← m.held.endItem? m.side
  let count ←
    match m.side with
    | .front => m.moving.countSecond? less key .front
    | .back => m.moving.countFirst? less key .back
  let m := m.takeMoving count
  return (if m.isFinished then m else m.takeHeld 1, count)

/-- The merge by stretches of both runs, until it is finished or both stretches are short, and how
many wins in a row are enough from then on. The first run is searched first. -/
def byStretches? (less : Comparison α) : Nat → Nat → Merge α → Option (Merge α × Nat)
  | 0, enough, m => some (m, enough)
  | fuel + 1, enough, m => do
    let enough := max (enough - 1) 1
    let searchFirst := if m.side = .front then heldStretch? less else movingStretch? less
    let searchSecond := if m.side = .front then movingStretch? less else heldStretch? less
    let (m, count) ← searchFirst m
    if m.isFinished then return (m, enough)
    let (m, count') ← searchSecond m
    if m.isFinished then return (m, enough)
    if longStretch ≤ count || longStretch ≤ count' then byStretches? less fuel enough m
    else return (m, enough)

/-- The finished merge, and how many wins in a row are enough in the next one. -/
def finish? (less : Comparison α) : Nat → Nat → Merge α → Option (Merge α × Nat)
  | 0, enough, m => some (m, enough)
  | fuel + 1, enough, m => do
    let m ← m.inTurns? less enough (m.held.size + m.moving.size) 0 0
    if m.isFinished then return (m, enough)
    let (m, enough) ← byStretches? less (m.held.size + m.moving.size) (enough + 1) m
    if m.isFinished then return (m, enough)
    finish? less fuel (enough + 1) m

end Merge

/-- Two runs in one, and how many wins in a row are enough in the next merge. Items at the front of
the first run and at the back of the second that are in place already take no part. The shorter of
the two remaining stretches is the one that is held. -/
def mergeRuns? (less : Comparison α) (enough : Nat) (first second : Array α) :
    Option (Array α × Nat) := do
  let settled ← (Stretch.all first).countFirst? less (← second[0]?) .front
  if settled = first.size then return (first ++ second, enough)
  let back ← (Stretch.all second).countSecond? less (← first[first.size - 1]?) .back
  if back = second.size then return (first ++ second, enough)
  let left : Stretch α := ⟨first, settled, first.size - settled⟩
  let right : Stretch α := ⟨second, 0, second.size - back⟩
  let m : Merge α :=
    if left.size ≤ right.size then ⟨.front, left, right, #[]⟩ else ⟨.back, right, left, #[]⟩
  let (m, enough) ← (m.takeMoving 1).finish? less (left.size + right.size) enough
  return (first.extract 0 settled ++ m.result ++ second.extract right.size second.size, enough)

end SlideContract.Sorting
