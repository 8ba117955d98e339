import SlideContract.Sorting.Merge

/-!
# Sorting

A list is cut into runs that rise or strictly fall; short ones are filled up by insertion. Runs are
merged so that the merges stay balanced: each border between two runs has a depth in the halving of
the whole list, and deeper borders are merged first. Equal items keep their order. The test by which
items are compared need not be an order; then the outcome still depends on nothing but its answers.
-/

namespace SlideContract.Sorting

variable {α : Type}

/-- The length that shorter runs are filled up to: the size of the list halved, the last time
rounded up if it was ever odd, until it is at most 64. -/
def shortestRun : Nat → Nat → Nat → Nat
  | 0, odd, size => size + odd
  | fuel + 1, odd, size =>
    if size < 64 then size + odd else shortestRun fuel (max odd (size % 2)) (size / 2)

/-- The number of items from `place` on of which each one comes before its predecessor, or else
none does. -/
def runLength? (less : Comparison α) (falling : Bool) (items : Array α) :
    Nat → Nat → Option Nat
  | 0, _ => some 0
  | fuel + 1, place =>
    if items.size ≤ place then some 0
    else do
      if (← less (← items[place]?) (← items[place - 1]?)) = falling then
        return (← runLength? less falling items fuel (place + 1)) + 1
      else return 0

/-- The run that begins at a place, in rising order. -/
def run? (less : Comparison α) (items : Array α) (place : Nat) : Option (Array α) :=
  if items.size ≤ place + 1 then some (items.extract place items.size)
  else do
    let falling ← less (← items[place + 1]?) (← items[place]?)
    let length := (← runLength? less falling items items.size (place + 2)) + 2
    let run := items.extract place (place + length)
    return if falling then run.reverse else run

/-- The run with each of the items inserted behind those that it does not come before. -/
def insertAll? (less : Comparison α) (run : Array α) : List α → Option (Array α)
  | [] => some run
  | item :: rest => do
    let place ←
      (Stretch.all run).halve? (fun x => (less item x).map not) run.size 0 run.size
    insertAll? less (run.extract 0 place ++ #[item] ++ run.extract place run.size) rest

/-- A run, the place that it begins at, and the depth of the border behind it. -/
structure Run (α : Type) where
  items : Array α
  start : Nat
  depth : Nat := 0

/-- The depth of a border: the number of halvings of the list after which two places lie in
different parts. The places are `a / 2` and `b / 2`, the middles of the two runs at the border. -/
def borderDepth (size : Nat) : Nat → Nat → Nat → Nat
  | 0, _, _ => 1
  | fuel + 1, a, b =>
    if size ≤ a then borderDepth size fuel (2 * (a - size)) (2 * (b - size)) + 1
    else if size ≤ b then 1
    else borderDepth size fuel (2 * a) (2 * b) + 1

/-- The runs that are not merged yet, latest first, and how many wins in a row are enough for
taking stretches in the next merge. -/
structure Pending (α : Type) where
  runs : List (Run α) := []
  enough : Nat := longStretch

/-- The runs with those merged, from the latest, whose border is deeper than `depth`. -/
def mergeDeeper? (less : Comparison α) (depth : Nat) : Nat → Pending α → Option (Pending α)
  | 0, p => some p
  | fuel + 1, p =>
    match p.runs with
    | second :: first :: rest =>
      if depth < first.depth then do
        let (items, enough) ← mergeRuns? less p.enough first.items second.items
        mergeDeeper? less depth fuel ⟨{ first with items } :: rest, enough⟩
      else some p
    | _ => some p

/-- The runs with a further one behind them, in a list of the given size. -/
def push? (less : Comparison α) (size : Nat) (items : Array α) (p : Pending α) :
    Option (Pending α) :=
  match p.runs with
  | [] => some { p with runs := [⟨items, 0, 0⟩] }
  | last :: _ => do
    let a := 2 * last.start + last.items.size
    let depth := borderDepth size size a (a + last.items.size + items.size)
    let p ← mergeDeeper? less depth p.runs.length p
    let start := last.start + last.items.size
    match p.runs with
    | last :: rest => return { p with runs := ⟨items, start, 0⟩ :: { last with depth } :: rest }
    | [] => return p

/-- All runs merged from the latest on; of three the first two are merged first if the first is
shorter than the last. -/
def mergeAll? (less : Comparison α) : Nat → Pending α → Option (Array α)
  | 0, _ => some #[]
  | fuel + 1, p =>
    let inFront (second first : Run α) (make : Run α → List (Run α)) := do
      let (items, enough) ← mergeRuns? less p.enough first.items second.items
      mergeAll? less fuel ⟨make { first with items }, enough⟩
    match p.runs with
    | [] => some #[]
    | [run] => some run.items
    | [second, first] => inFront second first fun run => [run]
    | third :: second :: first :: rest =>
      if first.items.size < third.items.size then
        inFront second first fun run => third :: run :: rest
      else inFront third second fun run => run :: first :: rest

/-- The runs of the items from a place on, pushed behind the pending ones. -/
def collect? (less : Comparison α) (shortest : Nat) (items : Array α) :
    Nat → Nat → Pending α → Option (Pending α)
  | 0, _, p => some p
  | fuel + 1, place, p =>
    if items.size ≤ place then some p
    else do
      let run ← run? less items place
      let added := items.extract (place + run.size) (place + shortest)
      let run ← insertAll? less run added.toList
      collect? less shortest items fuel (place + run.size) (← push? less items.size run p)

/-- The items in order, unless two that have to be compared cannot be. -/
def sort? (less : Comparison α) (items : Array α) : Option (Array α) := do
  let shortest := shortestRun items.size 0 items.size
  mergeAll? less (items.size + 1) (← collect? less shortest items items.size 0 {})

end SlideContract.Sorting
