import SlideContract.Edit.Fault
import SlideContract.Json.Basic

/-!
# Adding a field

A property is added at the top of a document, in the place of an older one of its name, and becomes
required or ceases to be. Properties that are no object are replaced by an empty one, required names
that are no list by an empty list, and an empty list of required names goes.
-/

namespace SlideContract.Edit

/-- The item is the name. -/
def isName (name : String) : Json → Bool
  | .str s => s == name
  | _ => false

/-- The required names with `name` among them or not. -/
def setRequired (name : String) (required : Bool) (names : List Json) : List Json :=
  if required then
    if names.any (isName name) then names else names ++ [.str name]
  else names.filter fun item => !isName name item

/-- The members of a document with one more property. -/
def addProperty (members : List (String × Json)) (name : String) (schema : Json)
    (required : Bool) : List (String × Json) :=
  let properties := ((Entries.get? "properties" members).bind Json.members?).getD []
  let members := Entries.set "properties" (.obj (Entries.set name schema properties)) members
  let names :=
    match Entries.get? "required" members with
    | some (.arr names) => names
    | _ => []
  match setRequired name required names with
  | [] => Entries.erase "required" members
  | names => Entries.set "required" (.arr names) members

/-- The document with one more property, whose name and schema are given as values. -/
def addField (document name schema : Json) (required : Bool) : Except Fault Json :=
  match name, schema, document with
  | .str name, .obj _, .obj members => .ok (.obj (addProperty members name schema required))
  | .str _, .obj _, _ => .error .notObject
  | .str _, _, _ => .error .fieldSchema
  | _, _, _ => .error .fieldName

end SlideContract.Edit
