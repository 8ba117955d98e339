import SlideContract.Entries
import SlideContract.Number.Basic

/-!
# Type trees

What a builder chain describes: an object with ordered properties of which some are required, an
array with an item type, a string, a number, a boolean, an enumeration of strings, or a fragment
that could not be understood.
-/

namespace SlideContract

/-- A lower and an upper bound, either of which may be missing. -/
structure Bounds where
  min : Option Number := none
  max : Option Number := none
  deriving DecidableEq, Repr, Inhabited

/-- The type a builder chain describes. The names of an object's properties are distinct, and its
required names are distinct and ascending. -/
inductive TypeTree where
  | object (properties : List (String × TypeTree)) (required : List String)
  | array (items : Option TypeTree) (bounds : Bounds)
  | string (bounds : Bounds)
  | number (bounds : Bounds)
  | boolean
  | enum (values : List String)
  | unknown
  deriving Inhabited

namespace TypeTree

/-- An object without properties. -/
def empty : TypeTree := .object [] []

/-- An ascending list of distinct names with one more name. -/
def insertName (name : String) : List String → List String
  | [] => [name]
  | n :: rest =>
    if name < n then name :: n :: rest
    else if name = n then n :: rest
    else n :: insertName name rest

/-- The names of a list, ascending and distinct. -/
def nameSet (names : List String) : List String := names.foldl (fun s n => insertName n s) []

end TypeTree
end SlideContract
