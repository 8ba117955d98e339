import SlideContract.Pattern.Reader
import SlideContract.Pattern.Search
import SlideContract.Schema.Unique
import SlideContract.Schema.Violation
import SlideContract.Text.Part

/-!
# Keywords

The rules of the Draft 7 keywords. A keyword looks at values of the types it is about and ignores
all others. Its own value may lead to further schemas, which are given here as checks: as a whole,
item by item and member by member.
-/

namespace SlideContract.Schema

/-- What a schema finds in a value. -/
abbrev Check := Json → Found

/-- A keyword of a schema with its value, and the checks of the schemas that the value leads to. -/
structure Keyword where
  name : String
  value : Json
  whole : Check
  items : List (Json × Check) := []
  members : List (String × Json × Check) := []

namespace Keyword

/-- The keyword of a name. -/
def get? (name : String) (keywords : List Keyword) : Option Keyword :=
  keywords.find? (·.name == name)

/-- The violation of a keyword by a value. -/
def violation (k : Keyword) (v : Json) (message : String) : Violation :=
  { message, keyword := some k.name, expected := k.value, actual := v }

/-- The keyword is violated by a value if the condition holds. -/
def violatedIf (k : Keyword) (v : Json) (condition : Bool) (message : String) : Found :=
  if condition then .one (k.violation v message) else .nothing

/-! ## Values of keywords -/

/-- The parts of a value that is gone through: the items of a list, the characters of a string, the
names of an object. -/
def parts : Json → Except Fault (List Json)
  | .arr items => .ok items
  | .str s => .ok (s.toList.map fun c => .str (String.ofList [c]))
  | .obj members => .ok ((Entries.names members).map .str)
  | _ => .error .wrongOperand

/-- The number that a limit is. -/
def limit (value : Json) : Except Fault Number :=
  match value.number? with
  | some n => .ok n
  | none => .error .wrongOperand

/-- The members of an object have a name that is given as a value. -/
def hasName (members : List (String × Json)) : Json → Except Fault Bool
  | .str name => .ok (Entries.has name members)
  | .arr _ | .obj _ => .error .wrongOperand
  | _ => .ok false

/-- A schema accepts a value. What is no schema is refused in one of two ways. -/
def accepts (schema : Json) (check : Check) (v : Json) : Except Fault Bool :=
  match schema with
  | .null | .num _ => .error .wrongOperand
  | _ => (check v).accepts

/-- The schemas that the value of a keyword lists; what stands for one in a value that is no list is
none. -/
def schemas (k : Keyword) : Except Fault (List (Json × Check)) :=
  match k.value with
  | .arr _ => .ok k.items
  | value => (parts value).map fun ps => ps.map fun p => (p, fun _ => .failed .noSchema)

/-- The schemas that the value of a keyword names. -/
def named (k : Keyword) : Except Fault (List (String × Json × Check)) :=
  match k.value with
  | .obj _ => .ok k.members
  | _ => .error .noSchema

/-! ## Any value -/

/-- The value has the type of a name. -/
def hasTypeNamed (v : Json) (name : String) : Except Fault Bool :=
  match name with
  | "array" => .ok (match v with | .arr _ => true | _ => false)
  | "boolean" => .ok (match v with | .bool _ => true | _ => false)
  | "integer" => .ok (match v with | .num n => n.toInt?.isSome | _ => false)
  | "null" => .ok (match v with | .null => true | _ => false)
  | "number" => .ok (match v with | .num _ => true | _ => false)
  | "object" => .ok (match v with | .obj _ => true | _ => false)
  | "string" => .ok (match v with | .str _ => true | _ => false)
  | _ => .error .unknownType

/-- The value has one of the types; they are tried in order. -/
def hasAnyType (v : Json) : List Json → Except Fault Bool
  | [] => .ok false
  | .str name :: rest => do if ← hasTypeNamed v name then return true else hasAnyType v rest
  | .arr _ :: _ | .obj _ :: _ => .error .wrongOperand
  | _ :: _ => .error .unknownType

/-- The types that a value names: one string, or the parts of a list. -/
def typesOf : Json → Except Fault (List Json)
  | .str name => .ok [.str name]
  | value => parts value

/-- Values as a message lists them. -/
def listed (values : List Json) : String := String.intercalate ", " (values.map Json.display)

/-- The rule of `type`. -/
def checkType (k : Keyword) (v : Json) : Found :=
  .ofResult (typesOf k.value) fun types =>
    .ofResult (hasAnyType v types) fun holds =>
      k.violatedIf v (!holds) (v.display ++ " is not of type " ++ listed types)

/-- The rule of `enum`. -/
def checkEnum (k : Keyword) (v : Json) : Found :=
  .ofResult (parts k.value) fun values =>
    k.violatedIf v (!values.any fun value => Json.equal value v)
      (v.display ++ " is not one of " ++ k.value.display)

/-- The rule of `const`. -/
def checkConst (k : Keyword) (v : Json) : Found :=
  k.violatedIf v (!Json.equal v k.value) (k.value.display ++ " was expected")

/-! ## Numbers -/

/-- The rule of a bound on numbers that is broken as `breaks` says. -/
def checkBound (k : Keyword) (v : Json) (breaks : Number → Number → Bool) (words : String) :
    Found :=
  match v with
  | .num n =>
    .ofResult (limit k.value) fun bound =>
      k.violatedIf v (breaks n bound) (v.display ++ words ++ k.value.display)
  | _ => .nothing

/-- The number as a binary64 value, unless it is an integer beyond the range of these. -/
def toReal : Number → Except Fault Binary64
  | .real x => .ok x
  | .int i =>
    match Binary64.ofInt i with
    | .infinite _ => .error .overflow
    | x => .ok x

/-- The first of two quotients of integers and naturals is a multiple of the second. -/
def divides (m : Int) (p : Nat) (n : Int) (q : Nat) : Bool := (m * q) % (n * p) == 0

/-- The quotient of two binary64 values, the second of which is not zero. -/
def quotient (x y : Binary64) : Binary64 :=
  match x.ratio?, y.ratio? with
  | some (m, p), some (n, q) =>
    .ofRatio ((m < 0) != (n < 0)) (m.natAbs * q) (n.natAbs * p)
  | none, some _ => x
  | some _, none => if y = .nan then .nan else .zero false
  | none, none => .nan

/-- The number is a multiple of a binary64 value: the rounded quotient is whole or, if that is
infinite, the exact one. -/
def isMultipleOfReal (n : Number) (y : Binary64) : Except Fault Bool := do
  let x ← toReal n
  if y.isZero then throw .zeroDivisor
  match quotient x y with
  | .nan => throw .noQuotient
  | .infinite _ =>
    match n.ratio?, y.ratio? with
    | some (m, p), some (k, q) => return divides m p k q
    | _, _ => throw .overflow
  | z => return z.toInt?.isSome

/-- The number is a multiple of an integer. -/
def isMultipleOfInt (n : Number) (i : Int) : Except Fault Bool :=
  if i = 0 then .error .zeroDivisor else
  match n with
  | .int m => .ok (m % i == 0)
  | .real x => do
    let y ← toReal (.int i)
    match x.ratio?, y.ratio? with
    | some (m, p), some (k, q) => return divides m p k q
    | _, _ => return false

/-- The number is a multiple of the value of a keyword. -/
def isMultipleOf (n : Number) (value : Json) : Except Fault Bool :=
  match value with
  | .num (.real y) => isMultipleOfReal n y
  | .num (.int i) => isMultipleOfInt n i
  | .bool b => isMultipleOfInt n (if b then 1 else 0)
  | _ => .error .wrongOperand

/-- The rule of `multipleOf`. -/
def checkMultiple (k : Keyword) (v : Json) : Found :=
  match v with
  | .num n =>
    .ofResult (isMultipleOf n k.value) fun holds =>
      k.violatedIf v (!holds) (v.display ++ " is not a multiple of " ++ k.value.display)
  | _ => .nothing

/-! ## Sizes -/

/-- The rule of a least size: what is said of a size below one, and below any other limit. -/
def checkLeast (k : Keyword) (v : Json) (size : Nat) (one other : String) : Found :=
  .ofResult (limit k.value) fun bound =>
    k.violatedIf v (Number.lt (.int size) bound)
      (v.display ++ (if bound.same (.int 1) then one else other))

/-- The rule of a greatest size: what is said of a size above zero, and above any other limit. -/
def checkMost (k : Keyword) (v : Json) (size : Nat) (zero other : String) : Found :=
  .ofResult (limit k.value) fun bound =>
    k.violatedIf v (Number.lt bound (.int size))
      (v.display ++ (if bound.same (.int 0) then zero else other))

/-! ## Strings -/

/-- The pattern is found in a text, if it is one. -/
def searchPattern (pattern text : List Char) : Except Fault Bool :=
  (Pattern.read pattern >>= (·.foundIn text)).mapError .badPattern

/-- The rule of `pattern`. -/
def checkPattern (k : Keyword) (v : Json) : Found :=
  match v, k.value with
  | .str s, .str pattern =>
    .ofResult (searchPattern pattern.toList s.toList) fun found =>
      k.violatedIf v (!found) (v.display ++ " does not match " ++ k.value.display)
  | .str _, _ => .failed .wrongOperand
  | _, _ => .nothing

/-- What a schema with its check finds in a part of a value, one step down. The schema that accepts
nothing stays at the value: its violation is that the part is there at all. -/
def checkPart (schema : Json) (check : Check) (step : Step) (part : Json) : Found :=
  match schema with
  | .bool false => check part
  | _ => (check part).below step

/-! ## Lists -/

/-- What the schema that a keyword has for its value finds in the items of a list, which are counted
from a first place. -/
def checkEach (k : Keyword) (first : Nat) (items : List Json) : Found :=
  .all ((items.zipIdx first).map fun (item, i) => checkPart k.value k.whole (.index i) item)

/-- The rule of `items`: one schema for all items, or one for each place. -/
def checkItems (k : Keyword) (v : Json) : Found :=
  match v, k.value with
  | .arr items, .arr _ =>
    .all ((items.zip k.items).zipIdx.map fun ((item, schema, check), i) =>
      checkPart schema check (.index i) item)
  | .arr items, _ => k.checkEach 0 items
  | _, _ => .nothing

/-- The number of parts of a value that places are counted by. -/
def length? : Json → Option Nat
  | .arr items => some items.length
  | .str s => some s.length
  | .obj members => some members.length
  | _ => none

/-- Values that were not expected, as a message lists them. -/
def unexpected (values : List Json) : String :=
  "(" ++ listed values ++ (if values.length = 1 then " was" else " were") ++ " unexpected)"

/-- The rule of `additionalItems`, for items behind those that `items` lists by place. -/
def checkAdditionalItems (keywords : List Keyword) (k : Keyword) (v : Json) : Found :=
  let byPlace : Option Json := (Keyword.get? "items" keywords).map (·.value)
  match v, byPlace with
  | .arr _, none | .arr _, some (.obj _) => .nothing
  | .arr items, some listedItems =>
    match length? listedItems with
    | none => .failed .wrongOperand
    | some count =>
      let extra := items.drop count
      match k.value with
      | .obj _ => k.checkEach count extra
      | value =>
        k.violatedIf v (value.isFalsy && !extra.isEmpty)
          ("Additional items are not allowed " ++ unexpected extra)
  | _, _ => .nothing

/-- Some item is accepted; they are tried in order. -/
def acceptsAny (k : Keyword) : List Json → Except Fault Bool
  | [] => .ok false
  | item :: rest => do if ← accepts k.value k.whole item then return true else k.acceptsAny rest

/-- The rule of `contains`. -/
def checkContains (k : Keyword) (v : Json) : Found :=
  match v with
  | .arr items =>
    .ofResult (k.acceptsAny items) fun found =>
      k.violatedIf v (!found) ("None of " ++ v.display ++ " are valid under the given schema")
  | _ => .nothing

/-- The rule of `uniqueItems`. -/
def checkUnique (k : Keyword) (v : Json) : Found :=
  match v with
  | .arr items =>
    k.violatedIf v (!k.value.isFalsy && !Json.areUnique items)
      (v.display ++ " has non-unique elements")
  | _ => .nothing

/-! ## Objects -/

/-- The required names that an object does not have. -/
def missing (members : List (String × Json)) : List Json → List Json
  | [] => []
  | name :: rest =>
    match hasName members name with
    | .ok false => name :: missing members rest
    | _ => missing members rest

/-- The violations of `required` by an object, one for each missing name. -/
def checkRequired (k : Keyword) (v : Json) : Found :=
  match v with
  | .obj members =>
    .ofResult (parts k.value) fun names =>
      .all (names.map fun name =>
        .ofResult (hasName members name) fun has =>
          if has then .nothing
          else .one { k.violation v (name.display ++ " is a required property") with
            actual := .arr (missing members names) })
  | _ => .nothing

/-- The rule of `properties`. -/
def checkProperties (k : Keyword) (v : Json) : Found :=
  match v with
  | .obj members =>
    .ofResult k.named fun schemas =>
      .all (schemas.map fun (name, schema, check) =>
        match Entries.get? name members with
        | some value => checkPart schema check (.name name) value
        | none => .nothing)
  | _ => .nothing

/-- The rule of `patternProperties`. -/
def checkPatternProperties (k : Keyword) (v : Json) : Found :=
  match v with
  | .obj members =>
    .ofResult k.named fun schemas =>
      .all (schemas.map fun (pattern, schema, check) =>
        .all (members.map fun (name, value) =>
          .ofResult (searchPattern pattern.toList name.toList) fun found =>
            if found then checkPart schema check (.name name) value else .nothing))
  | _ => .nothing

/-- The rule of `propertyNames`. -/
def checkPropertyNames (k : Keyword) (v : Json) : Found :=
  match v with
  | .obj members => .all (members.map fun (name, _) => k.whole (.str name))
  | _ => .nothing

/-- The properties of a schema, given as a value, include a name. -/
def includes (properties : Json) (name : String) : Except Fault Bool :=
  match properties with
  | .obj members => .ok (Entries.has name members)
  | .arr items => .ok (items.any fun item => Json.equal item (.str name))
  | .str s => .ok (Text.hasPart name.toList s.toList)
  | _ => .error .wrongOperand

/-- The strings among values, unless there is another. -/
def allStrings : List Json → Except Fault (List String)
  | [] => .ok []
  | .str s :: rest => (allStrings rest).map (s :: ·)
  | _ :: _ => .error .wrongOperand

/-- The names of an object that neither the properties nor the patterns of its schema cover. -/
def extraNames (properties : Json) (pattern : List Char) :
    List String → Except Fault (List String)
  | [] => .ok []
  | name :: rest => do
    let covered ←
      if ← includes properties name then pure true
      else if pattern.isEmpty then pure false
      else searchPattern pattern name.toList
    let others ← extraNames properties pattern rest
    return if covered then others else name :: others

/-- The names of an object that are in no way among the properties of its schema. -/
def unknownNames (properties : Json) (names : List String) : List String :=
  names.filter fun name =>
    match includes properties name with
    | .ok known => !known
    | .error _ => true

/-- Names in ascending order. -/
def sortedNames (names : List String) : List String := names.mergeSort fun a b => a ≤ b

/-- The message on extra names, where the schema also has these patterns or none. -/
def extraMessage (patterns : Option (List String)) (extra : List String) : String :=
  let extra := sortedNames extra
  match patterns with
  | none => "Additional properties are not allowed " ++ unexpected (extra.map .str)
  | some patterns =>
    listed (extra.map .str) ++ (if extra.length = 1 then " does" else " do") ++
      " not match any of the regexes: " ++ listed ((sortedNames patterns).map .str)

/-- The rule of `additionalProperties`. -/
def checkAdditional (keywords : List Keyword) (k : Keyword) (v : Json) : Found :=
  match v with
  | .obj members =>
    let valueOf (name : String) : Option Json := (Keyword.get? name keywords).map (·.value)
    let properties := (valueOf "properties").getD (.obj [])
    let names := Entries.names members
    let patterns := (parts ((valueOf "patternProperties").getD (.obj []))).bind allStrings
    .ofResult patterns fun patterns =>
      let pattern := (String.intercalate "|" patterns).toList
      .ofResult (extraNames properties pattern names) fun extra =>
        match k.value with
        | .obj _ =>
          .all (extra.map fun name =>
            checkPart k.value k.whole (.name name) ((Entries.get? name members).getD .null))
        | value =>
          if value.isFalsy && !extra.isEmpty then
            let message :=
              extraMessage ((valueOf "patternProperties").map fun _ => patterns) extra
            .ofResult (parts properties) fun known =>
              .one { k.violation v message with
                expected := .arr known
                actual := .arr ((unknownNames properties names).map .str) }
          else .nothing
  | _ => .nothing

/-- What an object lacks that its member `name` depends on. -/
def checkDependency (k : Keyword) (v : Json) (members : List (String × Json))
    (name : String) (dependency : Json) (check : Check) : Found :=
  match dependency with
  | .arr needed =>
    .all (needed.map fun other =>
      .ofResult (hasName members other) fun has =>
        k.violatedIf v (!has) (other.display ++ " is a dependency of " ++ name.quoted))
  | _ => check v

/-- The rule of `dependencies`. -/
def checkDependencies (k : Keyword) (v : Json) : Found :=
  match v with
  | .obj members =>
    .ofResult k.named fun dependencies =>
      .all (dependencies.map fun (name, dependency, check) =>
        if Entries.has name members then checkDependency k v members name dependency check
        else .nothing)
  | _ => .nothing

/-! ## Combined schemas -/

/-- The rule of `allOf`. -/
def checkAllOf (k : Keyword) (v : Json) : Found :=
  .ofResult k.schemas fun schemas => .all (schemas.map fun (_, check) => check v)

/-- The first schema that finds nothing wrong and those behind it. -/
def firstValid? (v : Json) : List (Json × Check) →
    Except Fault (Option (Json × List (Json × Check)))
  | [] => .ok none
  | (schema, check) :: rest => do
    if (← (check v).complete).isEmpty then return some (schema, rest) else firstValid? v rest

/-- The schemas that accept a value. -/
def accepting (v : Json) : List (Json × Check) → Except Fault (List Json)
  | [] => .ok []
  | (schema, check) :: rest => do
    let accepted ← accepts schema check v
    let others ← accepting v rest
    return if accepted then schema :: others else others

/-- What is said of a value that none of several schemas accepts. -/
def noneValid (v : Json) : String := v.display ++ " is not valid under any of the given schemas"

/-- The rule of `anyOf`. -/
def checkAnyOf (k : Keyword) (v : Json) : Found :=
  .ofResult k.schemas fun schemas =>
    .ofResult (firstValid? v schemas) fun found =>
      k.violatedIf v found.isNone (noneValid v)

/-- The rule of `oneOf`. -/
def checkOneOf (k : Keyword) (v : Json) : Found :=
  .ofResult k.schemas fun schemas =>
    .ofResult (firstValid? v schemas) fun
      | none => .one (k.violation v (noneValid v))
      | some (first, rest) =>
        .ofResult (accepting v rest) fun more =>
          k.violatedIf v (!more.isEmpty)
            (v.display ++ " is valid under each of " ++ listed (more ++ [first]))

/-- The rule of `not`. -/
def checkNot (k : Keyword) (v : Json) : Found :=
  .ofResult (accepts k.value k.whole v) fun accepted =>
    k.violatedIf v accepted (v.display ++ " should not be valid under " ++ k.value.display)

/-- The rule of `if`, with the schemas of `then` and `else`. -/
def checkIf (keywords : List Keyword) (k : Keyword) (v : Json) : Found :=
  .ofResult (accepts k.value k.whole v) fun accepted =>
    match Keyword.get? (if accepted then "then" else "else") keywords with
    | some branch => branch.whole v
    | none => .nothing

/-! ## All rules -/

/-- The size of a string. -/
def ofString (v : Json) (rule : Nat → Found) : Found :=
  match v with
  | .str s => rule s.length
  | _ => .nothing

/-- The size of a list. -/
def ofList (v : Json) (rule : Nat → Found) : Found :=
  match v with
  | .arr items => rule items.length
  | _ => .nothing

/-- The size of an object. -/
def ofObject (v : Json) (rule : Nat → Found) : Found :=
  match v with
  | .obj members => rule members.length
  | _ => .nothing

/-- What a keyword finds in a value, among all the keywords of its schema. -/
def check (keywords : List Keyword) (k : Keyword) (v : Json) : Found :=
  match k.name with
  | "type" => k.checkType v
  | "enum" => k.checkEnum v
  | "const" => k.checkConst v
  | "minimum" => k.checkBound v Number.lt " is less than the minimum of "
  | "maximum" => k.checkBound v (fun n bound => bound.lt n) " is greater than the maximum of "
  | "exclusiveMinimum" => k.checkBound v Number.le " is less than or equal to the minimum of "
  | "exclusiveMaximum" =>
    k.checkBound v (fun n bound => bound.le n) " is greater than or equal to the maximum of "
  | "multipleOf" => k.checkMultiple v
  | "minLength" =>
    ofString v fun size => k.checkLeast v size " should be non-empty" " is too short"
  | "maxLength" =>
    ofString v fun size => k.checkMost v size " is expected to be empty" " is too long"
  | "pattern" => k.checkPattern v
  | "items" => k.checkItems v
  | "additionalItems" => checkAdditionalItems keywords k v
  | "minItems" => ofList v fun size => k.checkLeast v size " should be non-empty" " is too short"
  | "maxItems" => ofList v fun size => k.checkMost v size " is expected to be empty" " is too long"
  | "contains" => k.checkContains v
  | "uniqueItems" => k.checkUnique v
  | "required" => k.checkRequired v
  | "properties" => k.checkProperties v
  | "patternProperties" => k.checkPatternProperties v
  | "propertyNames" => k.checkPropertyNames v
  | "additionalProperties" => checkAdditional keywords k v
  | "minProperties" =>
    ofObject v fun size =>
      k.checkLeast v size " should be non-empty" " does not have enough properties"
  | "maxProperties" =>
    ofObject v fun size =>
      k.checkMost v size " is expected to be empty" " has too many properties"
  | "dependencies" => k.checkDependencies v
  | "allOf" => k.checkAllOf v
  | "anyOf" => k.checkAnyOf v
  | "oneOf" => k.checkOneOf v
  | "not" => k.checkNot v
  | "if" => checkIf keywords k v
  | _ => .nothing

end Keyword
end SlideContract.Schema
