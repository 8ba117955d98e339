import SlideContract.Scan.Walk

/-!
# Balanced regions

The region of a text from an opening bracket to the closer that brings all three depths back to
zero, provided that no depth was negative before.
-/

namespace SlideContract.Scan

/-- The closer of an opening bracket. -/
def closer? : Char → Option Char
  | '(' => some ')'
  | '\x7b' => some '\x7d'
  | '[' => some ']'
  | _ => none

/-- The visit that settles whether the region closes: the first in code behind which the depths are
negative, or the closer at the top level. -/
def settles (closer : Char) (v : Visit) : Bool :=
  v.outside && (v.after.unbalanced || (v.char == closer && v.after.atTopLevel))

/-- The length of the balanced region that a text begins with. -/
def regionLength? (text : List Char) : Option Nat :=
  match text.head? >>= closer? with
  | none => none
  | some closer =>
    match (walk text).find? (settles closer) with
    | some v => if v.after.unbalanced then none else some (v.index + 1)
    | none => none

/-- The end of the balanced region that opens at `index`. -/
def regionEnd? (text : List Char) (index : Nat) : Option Nat :=
  (regionLength? (text.drop index)).map (index + ·)

end SlideContract.Scan
