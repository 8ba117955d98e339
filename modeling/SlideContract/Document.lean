import SlideContract.Json.Basic
import SlideContract.TypeTree

/-!
# Documents

The JSON Schema document of a type tree. Every object is closed, lists its required names in the
order of its properties and leaves the list out when it is empty; every array has an item schema.
A fragment that could not be understood becomes a string as an item and an empty closed object
elsewhere; as a whole tree it is answered with the fallback document.
-/

namespace SlideContract.Document

/-- The bounds that are present, under their keywords. -/
def boundMembers (low high : String) (b : Bounds) : List (String × Json) :=
  let member (name : String) : Option Number → List (String × Json)
    | some n => [(name, .num n)]
    | none => []
  member low b.min ++ member high b.max

/-- A schema of a type with further members. -/
def typed (type : String) (members : List (String × Json)) : Json :=
  .obj (("type", .str type) :: members)

/-- The schema of an object: its properties, the names required of it, closed. -/
def objectSchema (properties : List (String × Json)) (required : List String) : Json :=
  let required := (Entries.names properties).filter (required.contains ·)
  typed "object" <|
    ("properties", .obj properties) ::
      (if required.isEmpty then [] else [("required", .arr (required.map .str))]) ++
      [("additionalProperties", .bool false)]

mutual

/-- The schema of a tree as it stands. -/
def ofTree : TypeTree → Json
  | .object properties required => objectSchema (ofProperties properties) required
  | .array none b =>
    typed "array" (("items", typed "string" []) :: boundMembers "minItems" "maxItems" b)
  | .array (some items) b =>
    typed "array" (("items", ofTree items) :: boundMembers "minItems" "maxItems" b)
  | .string b => typed "string" (boundMembers "minLength" "maxLength" b)
  | .number b => typed "number" (boundMembers "minimum" "maximum" b)
  | .boolean => typed "boolean" []
  | .enum [] => typed "string" []
  | .enum values => typed "string" [("enum", .arr (values.map .str))]
  | .unknown => objectSchema [] []

/-- The schemas of the properties of an object. -/
def ofProperties : List (String × TypeTree) → List (String × Json)
  | [] => []
  | (name, tree) :: rest => (name, ofTree tree) :: ofProperties rest

end

/-- Names that an object requires without having properties of these names. -/
structure MissingProperties where
  names : List String
  deriving DecidableEq, Repr

mutual

/-- The tree with its unknown fragments replaced, as an item or elsewhere. An object that requires
a property it does not have is refused before its properties are looked at. -/
def close (asItem : Bool) : TypeTree → Except MissingProperties TypeTree
  | .unknown => .ok (if asItem then .string {} else .empty)
  | .array none b => .ok (.array (some (.string {})) b)
  | .array (some items) b => do return .array (some (← close true items)) b
  | .object properties required =>
    let missing := required.filter fun name => !Entries.has name properties
    if missing.isEmpty then do return .object (← closeProperties properties) required
    else .error ⟨missing⟩
  | tree => .ok tree

/-- The properties with their unknown fragments replaced. -/
def closeProperties :
    List (String × TypeTree) → Except MissingProperties (List (String × TypeTree))
  | [] => .ok []
  | (name, tree) :: rest => do
    let tree ← close false tree
    return (name, tree) :: (← closeProperties rest)

end

/-- A string with bounds on its length. -/
def boundedString (low high : Nat) : Json :=
  typed "string" [("minLength", .int low), ("maxLength", .int high)]

/-- The document that stands in for a source whose schema is not understood: a title and a
content. -/
def fallback : Json :=
  objectSchema [("title", boundedString 3 100), ("content", boundedString 10 500)]
    ["content", "title"]

/-- The closed document of a tree. -/
def ofRoot : TypeTree → Except MissingProperties Json
  | .unknown => .ok fallback
  | tree => (close false tree).map ofTree

end SlideContract.Document
