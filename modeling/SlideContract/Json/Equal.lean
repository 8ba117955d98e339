import SlideContract.Json.Basic

/-!
# Equality of JSON values

Two values are equal when they have the same kind and content: numbers by value, whichever way they
were written, objects whatever the order of their members, and booleans only with booleans. The
constant `NaN` equals itself.
-/

namespace SlideContract.Json

/-- Two numbers are equal as values of a document. -/
def sameNumber (a b : Number) : Bool :=
  match a, b with
  | .real .nan, .real .nan => true
  | _, _ => a.same b

mutual

/-- The two values are equal. -/
def equal : Json → Json → Bool
  | .null, .null => true
  | .bool a, .bool b => a == b
  | .num a, .num b => sameNumber a b
  | .str a, .str b => a == b
  | .arr a, .arr b => equalItems a b
  | .obj a, .obj b => a.length == b.length && equalMembers a b
  | _, _ => false

/-- The two lists are equal item by item. -/
def equalItems : List Json → List Json → Bool
  | [], [] => true
  | a :: as, b :: bs => equal a b && equalItems as bs
  | _, _ => false

/-- Each of the first members has an equal one of its name among the second. -/
def equalMembers : List (String × Json) → List (String × Json) → Bool
  | [], _ => true
  | (name, a) :: rest, others =>
    (match Entries.get? name others with
      | some b => equal a b
      | none => false) && equalMembers rest others

end

end SlideContract.Json
