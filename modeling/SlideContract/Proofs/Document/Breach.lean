import Mathlib.Data.List.Perm.Basic
import SlideContract.Document
import SlideContract.Location

/-!
# Breaches of types

What it means for a value to break a type, said of the tree itself and without its document: the
places at which it does, each with the keyword that is broken there. A fragment that is not
understood means any string as an item, and an object without members elsewhere.

* `TypeTree.breaches`: the breaches of a tree below the root, or of an item;
* `TypeTree.rootBreaches`: those of a whole tree;
* `TypeTree.Proper`: a tree whose objects require only properties they have.
-/

namespace SlideContract

/-- A place in a value and the keyword that is broken there. -/
abbrev Breach := Location × String

namespace Breach

/-- The breaches of a part of a value, as breaches of the value. -/
def below (step : Step) (breaches : List Breach) : List Breach :=
  breaches.map fun b => (step :: b.1, b.2)

/-- A keyword that is broken at the value itself, if the condition holds. -/
def when (condition : Bool) (keyword : String) : List Breach :=
  if condition then [([], keyword)] else []

/-- The bounds that a number does not keep. -/
def ofBounds (low high : String) (b : Bounds) (n : Number) : List Breach :=
  when (b.min.any n.lt) low ++ when (b.max.any (Number.lt · n)) high

/-- The breaches of the items of a list. -/
def ofItems (breaches : Json → List Breach) (items : List Json) : List Breach :=
  items.zipIdx.flatMap fun (item, i) => below (.index i) (breaches item)

/-- The breaches of a string with bounds on its length. -/
def ofString (b : Bounds) : Json → List Breach
  | .str s => ofBounds "minLength" "maxLength" b (.int s.length)
  | _ => [([], "type")]

/-- The breaches of an object, its properties aside: the required names that are missing, and once
for all other names that are no properties. -/
def ofNames (known required : List String) (members : List (String × Json)) : List Breach :=
  (required.filter fun name => !Entries.has name members).map (fun _ => ([], "required")) ++
    when ((Entries.names members).any fun name => !known.contains name) "additionalProperties"

end Breach

namespace TypeTree
open Breach

mutual

/-- The breaches of a tree by a value. -/
def breaches (asItem : Bool) : TypeTree → Json → List Breach
  | .object properties required, .obj members =>
    ofNames (Entries.names properties) required members ++ propertyBreaches properties members
  | .array none b, .arr items =>
    ofBounds "minItems" "maxItems" b (.int items.length) ++ ofItems (ofString {}) items
  | .array (some tree) b, .arr items =>
    ofBounds "minItems" "maxItems" b (.int items.length) ++
      ofItems (fun item => breaches true tree item) items
  | .string b, v => ofString b v
  | .number b, .num n => ofBounds "minimum" "maximum" b n
  | .boolean, .bool _ => []
  | .enum values, .str s => when (!values.isEmpty && !values.contains s) "enum"
  | .enum values, _ => ([], "type") :: when (!values.isEmpty) "enum"
  | .unknown, v =>
    if asItem then ofString {} v
    else match v with
    | .obj members => when (!members.isEmpty) "additionalProperties"
    | _ => [([], "type")]
  | _, _ => [([], "type")]

/-- The breaches of properties by the members that are there. -/
def propertyBreaches : List (String × TypeTree) → List (String × Json) → List Breach
  | [], _ => []
  | (name, tree) :: rest, members =>
    (match Entries.get? name members with
      | some value => below (.name name) (breaches false tree value)
      | none => []) ++ propertyBreaches rest members

end

/-- The tree that stands for a source that is not understood: a title and a content. -/
def fallback : TypeTree :=
  .object [("title", .string ⟨some (.int 3), some (.int 100)⟩),
    ("content", .string ⟨some (.int 10), some (.int 500)⟩)] ["content", "title"]

/-- The breaches of a whole tree by a value. -/
def rootBreaches : TypeTree → Json → List Breach
  | .unknown, v => breaches false fallback v
  | tree, v => breaches false tree v

/-- A tree whose objects have distinct properties, and require distinct ones of these. -/
inductive Proper : TypeTree → Prop where
  | object {properties : List (String × TypeTree)} {required : List String}
    (nodup : (Entries.names properties).Nodup) (requiredNodup : required.Nodup)
    (defined : ∀ name ∈ required, name ∈ Entries.names properties)
    (h : ∀ property ∈ properties, Proper property.2) : Proper (.object properties required)
  | array {items : TypeTree} (b : Bounds) (hitems : Proper items) : Proper (.array (some items) b)
  | itemless (b : Bounds) : Proper (.array none b)
  | string (b : Bounds) : Proper (.string b)
  | number (b : Bounds) : Proper (.number b)
  | boolean : Proper .boolean
  | enum (values : List String) : Proper (.enum values)
  | unknown : Proper .unknown

end TypeTree
end SlideContract
