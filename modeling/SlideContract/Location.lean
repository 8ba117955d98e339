/-!
# Locations

A location is the way from the root of a value to one of its parts: the names of members and the
indexes of items.
-/

namespace SlideContract

/-- One step to a part of a value. -/
inductive Step where
  | name (name : String)
  | index (index : Int)
  deriving DecidableEq, Repr

/-- The steps from the root of a value to one of its parts. -/
abbrev Location := List Step

namespace Location

/-- The text of a location that begins with what is written already: names after dots, indexes in
brackets, and no dot where nothing is written yet. -/
def renderAfter (written : String) : Location → String
  | [] => written
  | .index i :: rest => renderAfter (written ++ "[" ++ toString i ++ "]") rest
  | .name n :: rest =>
    renderAfter (if written.isEmpty then n else written ++ "." ++ n) rest

/-- The text of a location; what leaves no text is the root. -/
def render (location : Location) : String :=
  let written := renderAfter "" location
  if written.isEmpty then "(root)" else written

/-- An index stands before a name, indexes in the order of numbers and names in that of code
points. -/
def stepLe : Step → Step → Bool
  | .index i, .index j => i ≤ j
  | .index _, .name _ => true
  | .name _, .index _ => false
  | .name m, .name n => m ≤ n

/-- Locations are ordered by their first different steps, a part of another before it. -/
def le : Location → Location → Bool
  | [], _ => true
  | _ :: _, [] => false
  | a :: as, b :: bs => if a = b then le as bs else stepLe a b

end Location
end SlideContract
