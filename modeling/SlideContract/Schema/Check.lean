import SlideContract.Schema.Keyword

/-!
# Checking values

A schema is a boolean, which accepts every value or none, or an object, whose keywords each look at
the value in turn. The keywords of a schema are taken together with the checks of the schemas that
they lead to, so that their rules need not know how these are checked.
-/

namespace SlideContract.Schema

/-- What the schema that accepts nothing finds in a value. -/
def refuse (v : Json) : Found :=
  .one {
    message := "False schema does not allow " ++ v.display
    keyword := none
    expected := .null
    actual := v }

/-- What keywords find in a value, one after the other. -/
def checkAll (keywords : List Keyword) (v : Json) : Found :=
  .all (keywords.map fun k => k.check keywords v)

mutual

/-- What a schema finds in a value. -/
def check : Json → Check
  | .bool true, _ => .nothing
  | .bool false, v => refuse v
  | .obj members, v => checkAll (keywordsOf members) v
  | _, _ => .failed .noSchema

/-- The keywords of a schema. -/
def keywordsOf : List (String × Json) → List Keyword
  | [] => []
  | (name, .arr items) :: rest =>
    { name, value := .arr items, whole := fun _ => .failed .noSchema, items := itemChecks items } ::
      keywordsOf rest
  | (name, .obj members) :: rest =>
    { name, value := .obj members, whole := fun v => checkAll (keywordsOf members) v,
      members := memberChecks members } :: keywordsOf rest
  | (name, value) :: rest => { name, value, whole := check value } :: keywordsOf rest

/-- The checks of the items of a list as schemas. -/
def itemChecks : List Json → List (Json × Check)
  | [] => []
  | schema :: rest => (schema, check schema) :: itemChecks rest

/-- The checks of the members of an object as schemas. -/
def memberChecks : List (String × Json) → List (String × Json × Check)
  | [] => []
  | (name, schema) :: rest => (name, schema, check schema) :: memberChecks rest

end

/-- The violations of a schema by a value, ordered by their locations. -/
def violations (schema v : Json) : Except Fault (List Violation) :=
  (check schema v).complete.map fun found =>
    found.mergeSort fun a b => Location.le a.location b.location

end SlideContract.Schema
