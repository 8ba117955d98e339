/-!
# Tables of code points

A character class is given by its closed ranges of code points, ascending and written one after
another as `[first, last, first, last, …]`.
-/

namespace SlideContract.Text

/-- The first code point of the range that holds `n`, if one does. -/
def rangeStart? : List Nat → Nat → Option Nat
  | first :: last :: rest, n =>
    if n < first then none else if n ≤ last then some first else rangeStart? rest n
  | _, _ => none

/-- Some range of the table holds `n`. -/
def inRanges (ranges : List Nat) (n : Nat) : Bool := (rangeStart? ranges n).isSome

end SlideContract.Text
