import SlideContract.Entries
import SlideContract.Number.Basic

/-!
# JSON values

A document is a JSON value whose objects keep the order of their members. Numbers remember whether
they were written as integers.
-/

namespace SlideContract

/-- A JSON value. The names of an object's members are distinct. -/
inductive Json where
  | null
  | bool (value : Bool)
  | num (value : Number)
  | str (value : String)
  | arr (items : List Json)
  | obj (members : List (String × Json))
  deriving Inhabited

namespace Json

/-- An integer value. -/
def int (i : Int) : Json := .num (.int i)

/-- The member of an object under a name. -/
def get? (name : String) : Json → Option Json
  | .obj members => Entries.get? name members
  | _ => none

/-- The members of an object. -/
def members? : Json → Option (List (String × Json))
  | .obj members => some members
  | _ => none

/-- A value that counts as absent: null, false, zero, and everything empty. -/
def isFalsy : Json → Bool
  | .null => true
  | .bool b => !b
  | .num n => n.isZero
  | .str s => s.isEmpty
  | .arr items => items.isEmpty
  | .obj members => members.isEmpty

end Json
end SlideContract
