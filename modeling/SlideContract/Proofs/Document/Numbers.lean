import SlideContract.Proofs.Document.Close

/-!
# The numbers of documents

The numbers that stand in a document, at every depth, are the bounds of the tree that it is made of,
in the same order: closing a tree and writing its schema neither add bounds nor change any.

* `numbers_ofTree`: the numbers of a schema are those of its tree;
* `numbers_of_close`: closing a tree keeps its numbers;
* `numbers_of_ofRoot`: the numbers of a document.
-/

namespace SlideContract

namespace Json

mutual

/-- The numbers of a value, at every depth. -/
def numbers : Json → List Number
  | .num n => [n]
  | .arr items => itemNumbers items
  | .obj members => memberNumbers members
  | _ => []

/-- The numbers of the items of an array. -/
def itemNumbers : List Json → List Number
  | [] => []
  | item :: rest => item.numbers ++ itemNumbers rest

/-- The numbers of the members of an object. -/
def memberNumbers : List (String × Json) → List Number
  | [] => []
  | (_, member) :: rest => member.numbers ++ memberNumbers rest

end

lemma memberNumbers_append (members more : List (String × Json)) :
    memberNumbers (members ++ more) = memberNumbers members ++ memberNumbers more := by
  induction members with
  | nil => simp only [List.nil_append, memberNumbers]
  | cons member rest ih =>
    simp only [List.cons_append, memberNumbers, ih, List.append_assoc]

lemma itemNumbers_str (values : List String) : itemNumbers (values.map .str) = [] := by
  induction values with
  | nil => simp only [List.map_nil, itemNumbers]
  | cons value rest ih => simp only [List.map_cons, itemNumbers, numbers, ih, List.append_nil]

end Json

/-- The bounds that are present. -/
def Bounds.numbers (b : Bounds) : List Number := b.min.toList ++ b.max.toList

lemma Bounds.mem_numbers {b : Bounds} {x : Number} :
    x ∈ b.numbers ↔ b.min = some x ∨ b.max = some x := by
  simp [Bounds.numbers, Option.mem_toList]

namespace TypeTree

mutual

/-- The bounds of a tree, at every depth. -/
def numbers : TypeTree → List Number
  | .object properties _ => propertyNumbers properties
  | .array (some items) b => items.numbers ++ b.numbers
  | .array none b => b.numbers
  | .string b => b.numbers
  | .number b => b.numbers
  | _ => []

/-- The bounds of the properties of an object. -/
def propertyNumbers : List (String × TypeTree) → List Number
  | [] => []
  | (_, tree) :: rest => tree.numbers ++ propertyNumbers rest

end

/-- A bound of the properties is one of some property. -/
lemma mem_propertyNumbers {properties : List (String × TypeTree)} {x : Number}
    (h : x ∈ propertyNumbers properties) : ∃ property ∈ properties, x ∈ property.2.numbers := by
  induction properties with
  | nil => exact absurd h (by simp [propertyNumbers])
  | cons property rest ih =>
    rw [propertyNumbers] at h
    rcases List.mem_append.1 h with hfirst | hrest
    · exact ⟨property, List.mem_cons_self, hfirst⟩
    · obtain ⟨other, hother, hx⟩ := ih hrest
      exact ⟨other, List.mem_cons_of_mem _ hother, hx⟩

end TypeTree

namespace Document
open Json

lemma numbers_boundMembers (low high : String) (b : Bounds) :
    memberNumbers (boundMembers low high b) = b.numbers := by
  obtain ⟨min, max⟩ := b
  cases min <;> cases max <;>
    simp [boundMembers, Bounds.numbers, memberNumbers, Json.numbers]

lemma numbers_typed (type : String) (members : List (String × Json)) :
    (typed type members).numbers = memberNumbers members := by
  simp only [typed, Json.numbers, memberNumbers, List.nil_append]

/-- An object's schema has the numbers of its properties. -/
lemma numbers_objectSchema (properties : List (String × Json)) (required : List String) :
    (objectSchema properties required).numbers = memberNumbers properties := by
  unfold objectSchema
  simp only [numbers_typed, memberNumbers, memberNumbers_append, Json.numbers, List.append_nil]
  split
  · simp only [memberNumbers, List.append_nil]
  · simp only [memberNumbers, Json.numbers, itemNumbers_str, List.append_nil]

mutual

/-- The numbers of a schema are the bounds of its tree. -/
theorem numbers_ofTree : ∀ tree : TypeTree, (ofTree tree).numbers = tree.numbers
  | .object properties required => by
    rw [ofTree, numbers_objectSchema, numbers_ofProperties, TypeTree.numbers]
  | .array (some items) b => by
    rw [ofTree, numbers_typed, memberNumbers, numbers_ofTree, numbers_boundMembers,
      TypeTree.numbers]
  | .array none b => by
    rw [ofTree, numbers_typed, memberNumbers, numbers_typed, numbers_boundMembers,
      TypeTree.numbers, memberNumbers, List.nil_append]
  | .string b => by rw [ofTree, numbers_typed, numbers_boundMembers, TypeTree.numbers]
  | .number b => by rw [ofTree, numbers_typed, numbers_boundMembers, TypeTree.numbers]
  | .boolean => by rw [ofTree, numbers_typed, memberNumbers, TypeTree.numbers] <;> simp
  | .enum [] => by rw [ofTree, numbers_typed, memberNumbers, TypeTree.numbers] <;> simp
  | .enum (value :: rest) => by
    rw [ofTree, numbers_typed, memberNumbers, memberNumbers, Json.numbers, itemNumbers_str,
      TypeTree.numbers] <;> simp
  | .unknown => by
    rw [ofTree, numbers_objectSchema, memberNumbers, TypeTree.numbers] <;> simp

/-- The numbers of the schemas of properties are the bounds of these. -/
theorem numbers_ofProperties : ∀ properties : List (String × TypeTree),
    memberNumbers (ofProperties properties) = TypeTree.propertyNumbers properties
  | [] => by rw [ofProperties, memberNumbers, TypeTree.propertyNumbers]
  | (name, tree) :: rest => by
    rw [ofProperties, memberNumbers, numbers_ofTree, numbers_ofProperties,
      TypeTree.propertyNumbers]

end

/-! ## Closing -/

lemma accompanies_numbers :
    Accompanies fun tree closed => closed.numbers = tree.numbers where
  unknown asItem := by
    cases asItem <;>
      simp [TypeTree.numbers, TypeTree.empty, TypeTree.propertyNumbers, Bounds.numbers]
  itemless b := by simp [TypeTree.numbers, Bounds.numbers]
  array b h := by rw [TypeTree.numbers, TypeTree.numbers, h]
  object required h := by
    rw [TypeTree.numbers, TypeTree.numbers]
    induction h with
    | nil => rfl
    | cons hfirst _ ih => rw [TypeTree.propertyNumbers, TypeTree.propertyNumbers, hfirst.2, ih]
  refl _ := rfl

/-- Closing a tree keeps its bounds. -/
lemma numbers_of_close {tree closed : TypeTree} {asItem : Bool}
    (h : close asItem tree = .ok closed) : closed.numbers = tree.numbers :=
  accompanies_numbers.of_close h

/-- The numbers of the fallback document. -/
lemma numbers_fallback : fallback.numbers = [.int 3, .int 100, .int 10, .int 500] := by
  unfold fallback boundedString
  simp [numbers_objectSchema, numbers_typed, memberNumbers, Json.int, Json.numbers]

/-- A number of the document of a tree is a bound of the tree, or one of the fallback document. -/
theorem numbers_of_ofRoot {tree : TypeTree} {document : Json} (h : ofRoot tree = .ok document)
    {x : Number} (hx : x ∈ document.numbers) : x ∈ tree.numbers ∨ ∃ i, x = .int i := by
  -- an unknown root is the one tree whose document is not its own
  by_cases hunknown : tree = .unknown
  · rw [hunknown] at h
    rw [← Except.ok.inj (show Except.ok fallback = Except.ok document from h),
      numbers_fallback] at hx
    right
    simp only [List.mem_cons, List.not_mem_nil, or_false] at hx
    rcases hx with rfl | rfl | rfl | rfl
    · exact ⟨3, rfl⟩
    · exact ⟨100, rfl⟩
    · exact ⟨10, rfl⟩
    · exact ⟨500, rfl⟩
  · left
    rw [ofRoot_of_ne_unknown hunknown] at h
    obtain ⟨closed, hclose, rfl⟩ := Except.map_eq_ok.1 h
    rw [numbers_ofTree, numbers_of_close hclose] at hx
    exact hx

end Document
end SlideContract
