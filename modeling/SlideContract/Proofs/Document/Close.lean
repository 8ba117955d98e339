import Mathlib.Data.List.Forall2
import SlideContract.Document
import SlideContract.Proofs.Entries
import SlideContract.Proofs.Run

/-!
# Closing trees

Closing a tree fails only where an object requires a property that it does not have. What relates
every property to its schema relates all of them together.

* `close_object` and the lemmas behind it: what each kind of tree is closed to;
* `exists_closeProperties`: properties that can be closed one by one can be closed together;
* `Accompanies.of_close`: what holds of the parts of a tree and what they are closed to holds of
  the whole.
-/

namespace SlideContract.Document

/-- Properties and schemas under the same names, each related to the other. -/
def Matched (R : TypeTree → Json → Prop) (properties : List (String × TypeTree))
    (schemas : List (String × Json)) : Prop :=
  List.Forall₂ (fun p schema => p.1 = schema.1 ∧ R p.2 schema.2) properties schemas

variable {R : TypeTree → Json → Prop} {properties : List (String × TypeTree)}
  {schemas : List (String × Json)}

lemma Matched.names (h : Matched R properties schemas) :
    Entries.names schemas = Entries.names properties := by
  induction h with
  | nil => rfl
  | cons hfirst hrest ih => rw [Entries.names_cons, ih, Entries.names_cons, hfirst.1]

/-- Each schema belongs to a property. -/
lemma Matched.of_mem (h : Matched R properties schemas) {schema : String × Json}
    (hmem : schema ∈ schemas) : ∃ p ∈ properties, R p.2 schema.2 := by
  induction h with
  | nil => exact absurd hmem List.not_mem_nil
  | cons hfirst hrest ih =>
    rcases List.mem_cons.1 hmem with rfl | hmem
    · exact ⟨_, List.mem_cons_self, hfirst.2⟩
    · obtain ⟨p, hp, hR⟩ := ih hmem
      exact ⟨p, List.mem_cons_of_mem _ hp, hR⟩

/-- Properties that can be closed one by one can be closed together. -/
lemma exists_closeProperties
    (h : ∀ p ∈ properties, ∃ closed, close false p.2 = .ok closed ∧ R p.2 (ofTree closed)) :
    ∃ closed, closeProperties properties = .ok closed ∧
      Matched R properties (ofProperties closed) := by
  -- along the properties, which keep their names and their order
  induction properties with
  | nil =>
    refine ⟨[], ?_, ?_⟩
    · unfold closeProperties
      rfl
    · unfold ofProperties
      exact .nil
  | cons p rest ih =>
    obtain ⟨name, tree⟩ := p
    obtain ⟨first, hfirst, hR⟩ := h (name, tree) List.mem_cons_self
    obtain ⟨others, hothers, hmatched⟩ := ih fun q hq => h q (List.mem_cons_of_mem _ hq)
    refine ⟨(name, first) :: others, ?_, ?_⟩
    · unfold closeProperties
      rw [hfirst, hothers]
      rfl
    · unfold ofProperties
      exact .cons ⟨rfl, hR⟩ hmatched

/-- An object that requires only its properties is closed property by property. -/
lemma close_object {required : List String} {closed : List (String × TypeTree)}
    (defined : ∀ name ∈ required, name ∈ Entries.names properties)
    (h : closeProperties properties = .ok closed) (asItem : Bool) :
    close asItem (.object properties required) = .ok (.object closed required) := by
  have hmissing : required.filter (fun name => !Entries.has name properties) = [] := by
    rw [List.filter_eq_nil_iff]
    intro name hname
    rw [(Entries.has_iff_mem_names _ _).2 (defined name hname)]
    decide
  unfold close
  rw [hmissing, h]
  rfl

/-- An array with items is closed with them. -/
lemma close_array {items closed : TypeTree} (h : close true items = .ok closed) (asItem : Bool)
    (b : Bounds) : close asItem (.array (some items) b) = .ok (.array (some closed) b) := by
  unfold close
  rw [h]
  rfl

/-- An array whose items are not stated is closed as one of strings. -/
lemma close_itemless (asItem : Bool) (b : Bounds) :
    close asItem (.array none b) = .ok (.array (some (.string {})) b) := by
  unfold close
  rfl

/-- A fragment that is not understood is replaced by a string or by an object. -/
lemma close_unknown (asItem : Bool) :
    close asItem .unknown = .ok (if asItem then .string {} else .empty) := by
  unfold close
  rfl

/-- The trees without parts, which hold nothing to be replaced. -/
inductive IsLeaf : TypeTree → Prop where
  | string (b : Bounds) : IsLeaf (.string b)
  | number (b : Bounds) : IsLeaf (.number b)
  | boolean : IsLeaf .boolean
  | enum (values : List String) : IsLeaf (.enum values)

/-- Closing leaves a leaf as it is. -/
lemma close_of_isLeaf {tree : TypeTree} (h : IsLeaf tree) (asItem : Bool) :
    close asItem tree = .ok tree := by
  cases h <;> (unfold close; rfl)

/-- The document of a known tree is the schema of the closed tree. -/
lemma ofRoot_of_ne_unknown {tree : TypeTree} (h : tree ≠ .unknown) :
    ofRoot tree = (close false tree).map ofTree := by
  unfold ofRoot
  split
  · exact absurd rfl h
  · rfl

/-! ## What closing makes of a tree -/

/-- A relation between trees that holds of a fragment and what replaces it, of an array whose items
are not stated and of one of strings, of every tree and itself, and of arrays and objects if it
holds of their parts. -/
structure Accompanies (R : TypeTree → TypeTree → Prop) : Prop where
  unknown (asItem : Bool) : R .unknown (if asItem then .string {} else .empty)
  itemless (b : Bounds) : R (.array none b) (.array (some (.string {})) b)
  array {items closed : TypeTree} (b : Bounds) (h : R items closed) :
    R (.array (some items) b) (.array (some closed) b)
  object {properties closed : List (String × TypeTree)} (required : List String)
    (h : List.Forall₂ (fun p q => p.1 = q.1 ∧ R p.2 q.2) properties closed) :
    R (.object properties required) (.object closed required)
  refl (tree : TypeTree) : R tree tree

mutual

/-- Such a relation holds of a tree and what closing makes of it. -/
theorem Accompanies.of_close {R : TypeTree → TypeTree → Prop} (hR : Accompanies R) :
    ∀ {tree : TypeTree} {asItem : Bool} {closed : TypeTree},
      close asItem tree = .ok closed → R tree closed
  | .unknown, asItem, closed, h => by
    rw [close] at h
    exact Except.ok.inj h ▸ hR.unknown asItem
  | .array none b, asItem, closed, h => by
    rw [close] at h
    exact Except.ok.inj h ▸ hR.itemless b
  | .array (some items) b, asItem, closed, h => by
    rw [close] at h
    obtain ⟨inner, hitems, h⟩ := Except.bind_eq_ok.1 h
    exact Except.ok.inj h ▸ hR.array b (hR.of_close hitems)
  | .object properties required, asItem, closed, h => by
    rw [close] at h
    split at h
    · obtain ⟨inner, hproperties, h⟩ := Except.bind_eq_ok.1 h
      exact Except.ok.inj h ▸ hR.object required (hR.of_closeProperties hproperties)
    · exact absurd h (by rintro ⟨⟩)
  | .string b, asItem, closed, h => Except.ok.inj h ▸ hR.refl _
  | .number b, asItem, closed, h => Except.ok.inj h ▸ hR.refl _
  | .boolean, asItem, closed, h => Except.ok.inj h ▸ hR.refl _
  | .enum values, asItem, closed, h => Except.ok.inj h ▸ hR.refl _

/-- Properties are closed one by one. -/
theorem Accompanies.of_closeProperties {R : TypeTree → TypeTree → Prop} (hR : Accompanies R) :
    ∀ {properties closed : List (String × TypeTree)}, closeProperties properties = .ok closed →
      List.Forall₂ (fun p q => p.1 = q.1 ∧ R p.2 q.2) properties closed
  | [], closed, h => by
    rw [closeProperties] at h
    exact Except.ok.inj h ▸ .nil
  | (name, tree) :: rest, closed, h => by
    rw [closeProperties] at h
    obtain ⟨first, htree, h⟩ := Except.bind_eq_ok.1 h
    obtain ⟨others, hrest, h⟩ := Except.bind_eq_ok.1 h
    exact Except.ok.inj h ▸ .cons ⟨rfl, hR.of_close htree⟩ (hR.of_closeProperties hrest)

end

end SlideContract.Document
