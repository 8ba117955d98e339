import SlideContract.Schema.Inspection
import SlideContract.Schema.Keyword

/-!
# Draft 7 schemas

What is wrong with a value that ought to be a Draft 7 schema. The keywords are looked at in a fixed
order, whatever their order in the schema, and the first problem is the one that counts.
-/

namespace SlideContract.Schema.Draft

/-- What the value of a keyword has to be. -/
inductive Rule where
  | anything
  | text
  | flag
  | list
  | number
  | positive
  | size
  | pattern
  | schema
  | schemas
  | oneOrMore
  | texts
  | named
  | patterns
  | dependencies
  | typeNames
  deriving DecidableEq, Repr

/-- The keywords in the order in which they are looked at. -/
def rules : List (String × Rule) :=
  [("$id", .text), ("$schema", .text), ("$ref", .text), ("$comment", .text), ("title", .text),
   ("description", .text), ("default", .anything), ("readOnly", .flag), ("examples", .list),
   ("multipleOf", .positive), ("maximum", .number), ("exclusiveMaximum", .number),
   ("minimum", .number), ("exclusiveMinimum", .number), ("maxLength", .size),
   ("minLength", .size), ("pattern", .pattern), ("additionalItems", .schema),
   ("items", .oneOrMore), ("maxItems", .size), ("minItems", .size), ("uniqueItems", .flag),
   ("contains", .schema), ("maxProperties", .size), ("minProperties", .size),
   ("required", .texts), ("additionalProperties", .schema), ("definitions", .named),
   ("properties", .named), ("patternProperties", .patterns), ("dependencies", .dependencies),
   ("propertyNames", .schema), ("const", .anything), ("enum", .list), ("type", .typeNames),
   ("format", .text), ("contentMediaType", .text), ("contentEncoding", .text), ("if", .schema),
   ("then", .schema), ("else", .schema), ("allOf", .schemas), ("anyOf", .schemas),
   ("oneOf", .schemas), ("not", .schema)]

/-- The names of the types. -/
def typeNames : List String :=
  ["array", "boolean", "integer", "null", "number", "object", "string"]

/-- The value does not have one of the types. -/
def notOfType (v : Json) (names : List String) : String :=
  v.display ++ " is not of type " ++ Keyword.listed (names.map .str)

/-- A value has to be of a type and then satisfy something else. -/
def typed (name : String) (v : Json) (next : Inspection) : Inspection :=
  match Keyword.hasTypeNamed v name with
  | .ok true => next
  | _ => .ofProblem (notOfType v [name])

/-- A number has to keep a bound. -/
def bounded (v : Json) (breaks : Number → Bool) (words : String) : Inspection :=
  match v with
  | .num n => if breaks n then .ofProblem (v.display ++ words) else .clear
  | _ => .clear

/-- A text has to be a pattern. -/
def regular (text : String) : Inspection :=
  match Pattern.read text.toList with
  | .ok _ => .clear
  | .error .malformed => .ofProblem (text.quoted ++ " is not a 'regex'")
  | .error fault => { fault := some (.badPattern fault) }

/-- A list has to hold distinct items. -/
def distinct (v : Json) (items : List Json) : Inspection :=
  if Json.areUnique items then .clear else .ofProblem (v.display ++ " has non-unique elements")

/-- A list has to hold something. -/
def nonempty (v : Json) (items : List Json) : Inspection :=
  if items.isEmpty then .ofProblem (v.display ++ " should be non-empty") else .clear

/-- The items of a list. -/
def itemsOf : Json → List Json
  | .arr items => items
  | _ => []

/-- A value has to be a list of distinct strings. -/
def inspectTexts (v : Json) : Inspection :=
  typed "array" v <|
    (Inspection.all ((itemsOf v).map fun item => typed "string" item .clear)).andThen
      (distinct v (itemsOf v))

/-- A value has to be a list of schemas with the given inspections. -/
def inspectSchemas (v : Json) (items : List Inspection) : Inspection :=
  typed "array" v ((nonempty v (itemsOf v)).andThen (.all items))

/-- The value is the name of a type. -/
def isTypeName : Json → Bool
  | .str name => typeNames.contains name
  | _ => false

/-- The value is a list of distinct names of types, and not empty. -/
def isTypeList : Json → Bool
  | .arr items => items.all isTypeName && !items.isEmpty && Json.areUnique items
  | _ => false

/-- A value has to be an object of values with the given inspections. -/
def inspectNamed (v : Json) (found : List (String × Json × Inspection)) : Inspection :=
  typed "object" v (.all (found.map fun (_, _, inspection) => inspection))

/-- A value has to be an object of schemas under patterns. -/
def inspectPatterns (v : Json) (found : List (String × Json × Inspection)) : Inspection :=
  (inspectNamed v found).andThen (.all (found.map fun (name, _, _) => regular name))

/-- A value has to be an object of schemas and lists of names. -/
def inspectDependencies (v : Json) (found : List (String × Json × Inspection)) : Inspection :=
  typed "object" v <| .all <| found.map fun (_, value, inspection) =>
    .either (Keyword.noneValid value) [inspection, inspectTexts value]

/-- A value has to keep a rule and leads to no schemas. -/
def inspectPlain (rule : Rule) (v : Json) : Inspection :=
  match rule with
  | .text => typed "string" v .clear
  | .flag => typed "boolean" v .clear
  | .list => typed "array" v .clear
  | .number => typed "number" v .clear
  | .positive =>
    typed "number" v
      (bounded v (·.le (.int 0)) " is less than or equal to the minimum of 0")
  | .size =>
    typed "integer" v (bounded v (·.lt (.int 0)) " is less than the minimum of 0")
  | .pattern =>
    typed "string" v <|
      match v with
      | .str text => regular text
      | _ => .clear
  | .schemas => inspectSchemas v []
  | .texts => inspectTexts v
  | .named => inspectNamed v []
  | .patterns => inspectPatterns v []
  | .dependencies => inspectDependencies v []
  | .typeNames =>
    if isTypeName v || isTypeList v then .clear else .ofProblem (Keyword.noneValid v)
  | .anything | .schema | .oneOrMore => .clear

/-- The inspections of keywords in the order of the rules. -/
def inOrder (found : List (String × Inspection)) : Inspection :=
  .all (rules.filterMap fun (name, _) => Entries.get? name found)

/-- The rule of a keyword; unknown ones are free. -/
def ruleOf (name : String) : Rule := (Entries.get? name rules).getD .anything

mutual

/-- A value has to be a schema. -/
def inspect : Json → Inspection
  | .bool _ => .clear
  | .obj members => inOrder (inspectKeywords members)
  | v => .ofProblem (notOfType v ["object", "boolean"])

/-- The inspection of each keyword of a schema. -/
def inspectKeywords : List (String × Json) → List (String × Inspection)
  | [] => []
  | (name, v) :: rest =>
    let inspection :=
      match ruleOf name, v with
      | .schema, v => inspect v
      | .schemas, .arr items => inspectSchemas (.arr items) (inspectItems items)
      | .oneOrMore, .arr items =>
        .either (Keyword.noneValid (.arr items))
          [inspectSchemas (.arr items) (inspectItems items)]
      | .oneOrMore, v => .either (Keyword.noneValid v) [inspect v]
      | .named, .obj members => inspectNamed (.obj members) (inspectMembers members)
      | .patterns, .obj members => inspectPatterns (.obj members) (inspectMembers members)
      | .dependencies, .obj members =>
        inspectDependencies (.obj members) (inspectMembers members)
      | rule, v => inspectPlain rule v
    (name, inspection) :: inspectKeywords rest

/-- The inspection of each item of a list as a schema. -/
def inspectItems : List Json → List Inspection
  | [] => []
  | v :: rest => inspect v :: inspectItems rest

/-- The members of an object with the inspection of each as a schema. -/
def inspectMembers : List (String × Json) → List (String × Json × Inspection)
  | [] => []
  | (name, v) :: rest => (name, v, inspect v) :: inspectMembers rest

end

end SlideContract.Schema.Draft
