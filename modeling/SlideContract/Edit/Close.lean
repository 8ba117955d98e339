import SlideContract.Edit.Fault
import SlideContract.Json.Basic

/-!
# Closing objects

Every object schema that a document reaches through properties, items, combinators, `not` and
schemas of additional properties is closed, unless it already says something about additional
properties.
-/

namespace SlideContract.Edit

/-- The schema has the type object. -/
def isObjectSchema (members : List (String × Json)) : Bool :=
  match Entries.get? "type" members with
  | some (.str t) => t == "object"
  | _ => false

/-- The members of a schema, closed at the end if they are those of an open object. -/
def closeObject (members : List (String × Json)) : List (String × Json) :=
  if isObjectSchema members && !Entries.has "additionalProperties" members then
    members ++ [("additionalProperties", .bool false)]
  else members

/-- How a member of a schema is followed on the way to further schemas. -/
inductive Follow where
  /-- Its values are schemas under names. -/
  | properties
  /-- It is a schema, or a list of schemas. -/
  | schemas
  /-- It is a list of schemas, if it is a list. -/
  | list
  /-- It is a schema. -/
  | schema
  /-- It is not followed. -/
  | ignore
  deriving DecidableEq, Repr

/-- How the member of a name is followed. -/
def followOf (name : String) : Follow :=
  match name with
  | "properties" => .properties
  | "items" => .schemas
  | "allOf" | "anyOf" | "oneOf" => .list
  | "additionalProperties" | "not" => .schema
  | _ => .ignore

mutual

/-- The document with every object schema closed. -/
def close : Json → Except Fault Json
  | .obj members => do return .obj (closeObject (← closeMembers members))
  | value => .ok value

/-- The schemas of a list, closed. -/
def closeItems : List Json → Except Fault (List Json)
  | [] => .ok []
  | item :: rest => do return (← close item) :: (← closeItems rest)

/-- The schemas under names, closed. -/
def closeNamed : List (String × Json) → Except Fault (List (String × Json))
  | [] => .ok []
  | (name, value) :: rest => do return (name, ← close value) :: (← closeNamed rest)

/-- The members of a schema, with those that lead to further schemas closed. -/
def closeMembers : List (String × Json) → Except Fault (List (String × Json))
  | [] => .ok []
  | (name, value) :: rest => do
    let value ←
      match followOf name, value with
      | .properties, .obj named => .obj <$> closeNamed named
      | .properties, value => if value.isFalsy then .ok value else .error .oddProperties
      | .schemas, .arr items => .arr <$> closeItems items
      | .schemas, value => close value
      | .list, .arr items => .arr <$> closeItems items
      | .list, value => .ok value
      | .schema, value => close value
      | .ignore, value => .ok value
    return (name, value) :: (← closeMembers rest)

end

end SlideContract.Edit
