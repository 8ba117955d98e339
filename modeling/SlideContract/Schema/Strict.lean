import SlideContract.Schema.Draft

/-!
# Strict documents

Structured output in strict mode needs more than a valid schema: every object closed and with
properties, every required name among these, every array with an item schema of a type. The
problems of a document are listed from its root down.
-/

namespace SlideContract.Schema.Strict

/-- The type that a schema states. -/
def typeOf (members : List (String × Json)) : Option String :=
  match Entries.get? "type" members with
  | some (.str t) => some t
  | _ => none

/-- The object schema is closed. -/
def isClosed (members : List (String × Json)) : Bool :=
  match Entries.get? "additionalProperties" members with
  | some (.bool false) => true
  | _ => false

/-- The properties of an object schema, if they are given by an object. -/
def properties? (members : List (String × Json)) : Option (List (String × Json)) :=
  (Entries.get? "properties" members).bind Json.members?

/-- The required names that are not among the properties. -/
def undefinedNames (properties : List (String × Json)) : List Json → Except Fault (List Json)
  | [] => .ok []
  | name :: rest => do
    let defined ← Keyword.hasName properties name
    let others ← undefinedNames properties rest
    return if defined then others else name :: others

/-- The problems of an object schema at a location, its properties aside. -/
def objectProblems (location : String) (members : List (String × Json)) :
    Except Fault (List String) := do
  let closed :=
    if isClosed members then []
    else [location ++ ": object is not closed (additionalProperties)"]
  let properties := properties? members
  let present :=
    if properties.isSome then [] else [location ++ ": object has no properties"]
  let names ← Keyword.parts ((Entries.get? "required" members).getD (.arr []))
  let undefined ← undefinedNames (properties.getD []) names
  return closed ++ present ++ undefined.map fun name =>
    location ++ ": required property '" ++ name.plain ++ "' is not defined"

/-- The value is a schema that states a type. -/
def isConcrete : Json → Bool
  | .obj members => Entries.has "type" members
  | _ => false

/-- The problems of an array schema at a location, its items aside. -/
def arrayProblems (location : String) (members : List (String × Json)) : List String :=
  if (Entries.get? "items" members).any isConcrete then []
  else [location ++ ": array has no concrete items"]

mutual

/-- The problems of a schema at a location and below. -/
def problemsAt (location : String) : Json → Except Fault (List String)
  | .obj members =>
    match typeOf members with
    | some "object" => do
      return (← objectProblems location members) ++ (← problemsOfProperties location members)
    | some "array" => do
      return arrayProblems location members ++ (← problemsOfItems location members)
    | _ => .ok []
  | _ => .ok []

/-- The problems below the properties among the members of a schema. -/
def problemsOfProperties (location : String) :
    List (String × Json) → Except Fault (List String)
  | [] => .ok []
  | (name, value) :: rest =>
    if name = "properties" then
      match value with
      | .obj properties => problemsOfNamed location properties
      | _ => .ok []
    else problemsOfProperties location rest

/-- The problems of properties and below. -/
def problemsOfNamed (location : String) : List (String × Json) → Except Fault (List String)
  | [] => .ok []
  | (name, value) :: rest => do
    return (← problemsAt (location ++ "." ++ name) value) ++ (← problemsOfNamed location rest)

/-- The problems below the items among the members of a schema. -/
def problemsOfItems (location : String) : List (String × Json) → Except Fault (List String)
  | [] => .ok []
  | (name, value) :: rest =>
    if name = "items" then
      if isConcrete value then problemsAt (location ++ "[]") value else .ok []
    else problemsOfItems location rest

end

/-- The problems that make a document unusable for structured output: the first one it has as a
schema, and all that it has beyond. -/
def problems (document : Json) : Except Fault (List String) := do
  let invalid := (← (Draft.inspect document).first).toList.map ("Invalid JSON Schema: " ++ ·)
  return invalid ++ (← problemsAt "root" document)

end SlideContract.Schema.Strict
