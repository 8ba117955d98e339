import SlideContract.Proofs.Compile.Height
import SlideContract.Proofs.Document.Close

/-!
# How deep documents nest

The schemas of a document stand one inside the other as the parts of its tree do: a schema of items
for the items, a schema of a property for each property. Closing a tree replaces fragments by leaves
and by objects without properties, which are as high as the fragments.

* `Nests`: schemas one inside the other;
* `height_of_close`: closing a tree keeps its height;
* `le_height_of_nests`: a schema nests no deeper than its tree is high.
-/

namespace SlideContract.Document
open TypeTree

/-- The schemas right inside a schema: that of its items and those of its properties. -/
def inside (members : List (String × Json)) : List Json :=
  members.flatMap fun
    | ("items", items) => [items]
    | ("properties", .obj properties) => properties.map (·.2)
    | _ => []

/-- In the schema a number of schemas stand one right inside the other, itself the outermost. -/
inductive Nests : Json → ℕ → Prop where
  | schema (members : List (String × Json)) : Nests (.obj members) 1
  | inner {members : List (String × Json)} {child : Json} {n : ℕ} (hchild : child ∈ inside members)
    (h : Nests child n) : Nests (.obj members) (n + 1)

variable {n : ℕ}

/-- Whether as many schemas stand one inside the other. -/
def nestsTo : ℕ → Json → Bool
  | n + 1, .obj members => n == 0 || (inside members).any (nestsTo n)
  | _, _ => false

lemma nestsTo_iff {document : Json} : nestsTo n document = true ↔ Nests document n := by
  constructor
  · intro h
    induction n generalizing document with
    | zero => exact absurd h Bool.false_ne_true
    | succ n ih =>
      cases document with
      | obj members =>
        rw [nestsTo, Bool.or_eq_true, beq_iff_eq, List.any_eq_true] at h
        rcases h with rfl | ⟨child, hchild, h⟩
        · exact .schema members
        · exact .inner hchild (ih h)
      | _ => exact absurd h Bool.false_ne_true
  · intro h
    induction h with
    | schema members => rfl
    | inner hchild _ ih =>
      rw [nestsTo, List.any_eq_true.2 ⟨_, hchild, ih⟩, Bool.or_true]

instance (document : Json) (n : ℕ) : Decidable (Nests document n) :=
  decidable_of_iff _ nestsTo_iff

/-! ## Schemas -/

/-- A schema nests one deeper than what is right inside it. -/
lemma nests_typed {type : String} {members : List (String × Json)} {height : ℕ}
    (hinside : ∀ child ∈ inside members, ∀ n, Nests child n → n ≤ height)
    (h : Nests (typed type members) n) : n ≤ height + 1 := by
  cases h with
  | schema => exact Nat.succ_le_succ (Nat.zero_le _)
  | inner hchild h => exact Nat.succ_le_succ (hinside _ hchild _ h)

/-- Bounds lead to no schemas. -/
lemma inside_boundMembers {low high : String} (h : (low, high) ∈
      [("minItems", "maxItems"), ("minLength", "maxLength"), ("minimum", "maximum")]) (b : Bounds) :
    inside (boundMembers low high b) = [] := by
  obtain ⟨min, max⟩ := b
  simp only [List.mem_cons, Prod.mk.injEq, List.not_mem_nil, or_false] at h
  rcases h with ⟨rfl, rfl⟩ | ⟨rfl, rfl⟩ | ⟨rfl, rfl⟩ <;> cases min <;> cases max <;> rfl

lemma inside_items (items : Json) (b : Bounds) :
    inside (("items", items) :: boundMembers "minItems" "maxItems" b) = [items] := by
  show items :: inside _ = _
  rw [inside_boundMembers (by simp)]

/-- A schema that leads to no schemas. -/
lemma nests_leaf {type : String} {members : List (String × Json)} (hinside : inside members = [])
    (h : Nests (typed type members) n) : n ≤ 1 := by
  refine @nests_typed n type members 0 (fun child hchild => ?_) h
  rw [hinside] at hchild
  exact absurd hchild List.not_mem_nil

/-- The schema of an object nests one deeper than those of its properties. -/
lemma nests_objectSchema {properties : List (String × Json)} {required : List String} {height : ℕ}
    (hproperties : ∀ property ∈ properties, ∀ n, Nests property.2 n → n ≤ height)
    (h : Nests (objectSchema properties required) n) : n ≤ height + 1 := by
  unfold objectSchema at h
  refine nests_typed (fun child hchild => ?_) h
  -- the names that are required and the mark of a closed object lead to no schemas
  have hinside : child ∈ properties.map (·.2) := by
    rw [inside, List.cons_append, List.flatMap_cons, List.flatMap_append, List.mem_append] at hchild
    refine hchild.resolve_right fun hother => ?_
    split at hother <;> exact absurd hother List.not_mem_nil
  obtain ⟨property, hproperty, rfl⟩ := List.mem_map.1 hinside
  exact hproperties property hproperty

/-! ## Trees -/

mutual

/-- A schema nests no deeper than its tree is high. -/
theorem le_height_of_nests : ∀ {tree : TypeTree} {n : ℕ}, Nests (ofTree tree) n → n ≤ tree.height
  | .object properties required, n, h => by
    rw [ofTree] at h
    rw [height]
    exact nests_objectSchema le_propertiesHeight_of_nests h
  | .array (some items) b, n, h => by
    rw [ofTree] at h
    rw [height]
    refine nests_typed (fun child hchild n hn => ?_) h
    rw [inside_items, List.mem_singleton] at hchild
    exact le_height_of_nests (hchild ▸ hn)
  | .array none b, n, h => by
    rw [ofTree] at h
    rw [height]
    refine nests_typed (fun child hchild n hn => ?_) h
    rw [inside_items, List.mem_singleton] at hchild
    -- an array without items is given items of strings, which are leaves
    exact nests_leaf rfl (hchild ▸ hn)
  | .string b, n, h => by
    rw [ofTree] at h
    rw [height]
    exact nests_leaf (inside_boundMembers (by simp) b) h
  | .number b, n, h => by
    rw [ofTree] at h
    rw [height]
    exact nests_leaf (inside_boundMembers (by simp) b) h
  | .boolean, n, h => by
    rw [ofTree] at h
    rw [height]
    exact nests_leaf rfl h
  | .enum [], n, h => by
    rw [ofTree] at h
    rw [height]
    exact nests_leaf rfl h
  | .enum (value :: rest), n, h => by
    rw [ofTree] at h
    · rw [height]
      exact nests_leaf rfl h
    · simp
  | .unknown, n, h => by
    rw [ofTree] at h
    rw [height]
    exact nests_objectSchema (fun _ hproperty => absurd hproperty List.not_mem_nil) h

/-- The schemas of properties nest no deeper than the highest property. -/
theorem le_propertiesHeight_of_nests : ∀ {properties : List (String × TypeTree)},
    ∀ property ∈ ofProperties properties, ∀ n, Nests property.2 n → n ≤ propertiesHeight properties
  | [], property, hproperty, n, h => by
    rw [ofProperties] at hproperty
    exact absurd hproperty List.not_mem_nil
  | (name, tree) :: rest, property, hproperty, n, h => by
    rw [ofProperties] at hproperty
    rw [propertiesHeight]
    rcases List.mem_cons.1 hproperty with rfl | hproperty
    · exact (le_height_of_nests h).trans (Nat.le_max_left _ _)
    · exact (le_propertiesHeight_of_nests property hproperty n h).trans (Nat.le_max_right _ _)

end

/-! ## Closing -/

lemma accompanies_height : Accompanies fun tree closed => closed.height = tree.height where
  unknown asItem := by cases asItem <;> simp [height, propertiesHeight, TypeTree.empty]
  itemless b := by simp [height]
  array b h := by rw [height, height, h]
  object required h := by
    rw [height, height]
    congr 1
    induction h with
    | nil => rfl
    | cons hfirst _ ih => rw [propertiesHeight, propertiesHeight, hfirst.2, ih]
  refl _ := rfl

/-- Closing a tree keeps its height. -/
lemma height_of_close {tree closed : TypeTree} {asItem : Bool}
    (h : close asItem tree = .ok closed) : closed.height = tree.height :=
  accompanies_height.of_close h

/-- The document of a known tree nests no deeper than the tree is high. -/
lemma le_height_of_nests_ofRoot {tree : TypeTree} {document : Json} {n : ℕ}
    (hknown : tree ≠ .unknown) (hdocument : ofRoot tree = .ok document) (h : Nests document n) :
    n ≤ tree.height := by
  rw [ofRoot_of_ne_unknown hknown] at hdocument
  obtain ⟨closed, hclose, rfl⟩ := Except.map_eq_ok.1 hdocument
  rw [← height_of_close hclose]
  exact le_height_of_nests h

end SlideContract.Document
