import SlideContract.Proofs.Compile.Built
import SlideContract.Proofs.Document.Close
import SlideContract.Proofs.Document.Usable

/-!
# Sound trees

The trees that have usable documents: the bounds on lengths are naturals, and an object has distinct
names of properties and requires only these. Compiling an expression gives such a tree.

* `sound_of_compile`: compiled trees are sound;
* `usable_of_close`: closing a sound tree succeeds and makes its schema usable.
-/

namespace SlideContract

/-- Bounds that a size is compared with. -/
structure Bounds.AreSizes (b : Bounds) : Prop where
  min : ∀ n, b.min = some n → n.IsSize
  max : ∀ n, b.max = some n → n.IsSize

/-- A tree whose bounds on lengths are sizes, and whose objects require only properties they have.
-/
inductive TypeTree.Sound : TypeTree → Prop where
  | object {properties : List (String × TypeTree)} {required : List String}
    (nodup : (Entries.names properties).Nodup)
    (defined : ∀ name ∈ required, name ∈ Entries.names properties)
    (h : ∀ property ∈ properties, Sound property.2) : Sound (.object properties required)
  | array {items : TypeTree} {b : Bounds} (hitems : Sound items) (h : b.AreSizes) :
    Sound (.array (some items) b)
  | itemless {b : Bounds} (h : b.AreSizes) : Sound (.array none b)
  | string {b : Bounds} (h : b.AreSizes) : Sound (.string b)
  | number (b : Bounds) : Sound (.number b)
  | boolean : Sound .boolean
  | enum (values : List String) : Sound (.enum values)
  | unknown : Sound .unknown

/-! ## Bounds -/

/-- What each modifier keeps, all modifiers keep. -/
lemma Bounds.keeps_of_foldlM (holds : Bounds → Prop) {calls : List Call}
    {step : Bounds → Call → Except TooManyDigits Bounds}
    (hstep : ∀ call ∈ calls, ∀ b b', holds b → step b call = .ok b' → holds b') {b b' : Bounds}
    (h : holds b) (heq : calls.foldlM step b = .ok b') : holds b' := by
  induction calls generalizing b with
  | nil => exact Except.ok.inj heq ▸ h
  | cons call rest ih =>
    rw [List.foldlM_cons] at heq
    obtain ⟨next, hcall, heq⟩ := Except.bind_eq_ok.1 heq
    exact ih (fun c hc => hstep c (List.mem_cons_of_mem _ hc))
      (hstep call List.mem_cons_self b next h hcall) heq

namespace Bounds.AreSizes

lemma empty : Bounds.AreSizes {} where
  min _ h := by simp at h
  max _ h := by simp at h

variable {b b' : Bounds}

lemma setMin (h : b.AreSizes) (size : ℕ) :
    Bounds.AreSizes { b with min := some (.int size) } where
  min _ hn := ⟨size, (Option.some.inj hn).symm⟩
  max := h.max

lemma setMax (h : b.AreSizes) (size : ℕ) :
    Bounds.AreSizes { b with max := some (.int size) } where
  min := h.min
  max _ hn := ⟨size, (Option.some.inj hn).symm⟩

lemma setLength (h : b.AreSizes) (name : String) (size : ℕ) :
    (Compile.setLength b name size).AreSizes := by
  unfold Compile.setLength
  split
  · exact h.setMin size
  · exact h.setMax size
  · exact (h.setMin size).setMax size
  · exact h

lemma lengthStep (h : b.AreSizes) {call : Call} (heq : Compile.lengthStep b call = .ok b') :
    b'.AreSizes := by
  unfold Compile.lengthStep at heq
  split at heq
  · obtain ⟨n, -, heq⟩ := Except.bind_eq_ok.1 heq
    cases n with
    | none => exact Except.ok.inj heq ▸ h
    | some n => exact Except.ok.inj heq ▸ h.setLength call.name n
  · exact Except.ok.inj heq ▸ h

lemma sizeStep (h : b.AreSizes) {call : Call} (heq : Compile.sizeStep b call = .ok b') :
    b'.AreSizes := by
  unfold Compile.sizeStep at heq
  split at heq
  · exact Except.ok.inj heq ▸ h.setMin 1
  · exact h.lengthStep heq

/-- The modifiers of a string set sizes as its bounds. -/
lemma lengthBounds {calls : List Call} (h : Compile.lengthBounds calls = .ok b) : b.AreSizes :=
  Bounds.keeps_of_foldlM _ (fun _ _ _ _ hb heq => hb.lengthStep heq) empty h

/-- The modifiers of an array set sizes as its bounds. -/
lemma sizeBounds {calls : List Call} (h : Compile.sizeBounds calls = .ok b) : b.AreSizes :=
  Bounds.keeps_of_foldlM _ (fun _ _ _ _ hb heq => hb.sizeStep heq) empty h

end Bounds.AreSizes

/-! ## Compiled trees -/

namespace TypeTree

lemma sound_of_built {calls : List Call} {tree : TypeTree} (h : Compile.Built calls Sound tree) :
    Sound tree := by
  cases h with
  | inner h => exact h
  | unknown => exact .unknown
  | string n h => exact .string (.lengthBounds h)
  | number n h => exact .number _
  | boolean => exact .boolean
  | enum values => exact .enum values
  | array hitems n h =>
    refine .array ?_ (.sizeBounds h)
    rcases hitems with hitems | rfl
    · exact hitems
    · exact .unknown
  | object nodup defined h => exact .object nodup defined h

/-- Whatever expression is compiled, the tree is sound. -/
theorem sound_of_compile {ctx : Compile.Context} {remaining : ℕ} {visiting : List String}
    {text : List Char} {tree : TypeTree}
    (h : (Compile.compile ctx remaining visiting text).result = .ok tree) : tree.Sound :=
  Compile.built_of_compile (fun _ => True) (fun _ _ _ _ => trivial) (fun _ _ => trivial)
    (fun _ _ _ => sound_of_built) trivial h

end TypeTree

/-! ## Closing -/

namespace Document
open TypeTree

/-- A bound is written under its keyword if it is there. -/
lemma mem_boundMembers {low high : String} {b : Bounds} {m : String × Json} :
    m ∈ boundMembers low high b ↔
      (∃ n, b.min = some n ∧ m = (low, .num n)) ∨ (∃ n, b.max = some n ∧ m = (high, .num n)) := by
  obtain ⟨min, max⟩ := b
  cases min <;> cases max <;> simp [boundMembers]

/-- The bounds of sizes annotate. -/
lemma annotation_of_mem_sizes {low high : String}
    (hlow : low ∈ ["minLength", "maxLength", "minItems", "maxItems"])
    (hhigh : high ∈ ["minLength", "maxLength", "minItems", "maxItems"])
    {b : Bounds} (h : b.AreSizes) {m : String × Json} (hm : m ∈ boundMembers low high b) :
    Annotation m := by
  rcases mem_boundMembers.1 hm with ⟨n, hn, rfl⟩ | ⟨n, hn, rfl⟩
  · exact .size hlow (h.min n hn)
  · exact .size hhigh (h.max n hn)

/-- The bounds of numbers annotate. -/
lemma annotation_of_mem_range {b : Bounds} {m : String × Json}
    (hm : m ∈ boundMembers "minimum" "maximum" b) : Annotation m := by
  rcases mem_boundMembers.1 hm with ⟨n, -, rfl⟩ | ⟨n, -, rfl⟩
  · exact .bound (by decide) n
  · exact .bound (by decide) n

lemma usable_string {b : Bounds} (h : b.AreSizes) : Usable (ofTree (.string b)) := by
  unfold ofTree
  exact .leaf (by decide) fun m hm => annotation_of_mem_sizes (by decide) (by decide) h hm

lemma usable_array {items : TypeTree} {b : Bounds} (hitems : Usable (ofTree items))
    (h : b.AreSizes) : Usable (ofTree (.array (some items) b)) := by
  unfold ofTree
  exact .array hitems fun m hm => annotation_of_mem_sizes (by decide) (by decide) h hm

lemma usable_number (b : Bounds) : Usable (ofTree (.number b)) := by
  unfold ofTree
  exact .leaf (by decide) fun m hm => annotation_of_mem_range hm

lemma usable_boolean : Usable (ofTree .boolean) := by
  unfold ofTree
  exact .leaf (by decide) (by simp)

lemma usable_enum (values : List String) : Usable (ofTree (.enum values)) := by
  cases values with
  | nil =>
    unfold ofTree
    exact .leaf (by decide) (by simp)
  | cons value rest =>
    unfold ofTree
    exact .leaf (by decide) (List.forall_mem_singleton.2 (.enum _))

lemma usable_empty : Usable (ofTree .empty) := by
  unfold TypeTree.empty ofTree ofProperties
  exact .object [] List.nodup_nil (by simp)

lemma usable_object {properties closed : List (String × TypeTree)}
    (h : Matched (fun _ schema => Usable schema) properties (ofProperties closed))
    (nodup : (Entries.names properties).Nodup) (required : List String) :
    Usable (ofTree (.object closed required)) := by
  unfold ofTree
  refine .object required ?_ ?_
  · rw [h.names]
    exact nodup
  · intro schema hschema
    obtain ⟨p, -, husable⟩ := h.of_mem hschema
    exact husable

/-- Closing a sound tree succeeds, and the schema of the closed tree is usable. -/
theorem usable_of_close {tree : TypeTree} (h : tree.Sound) (asItem : Bool) :
    ∃ closed, close asItem tree = .ok closed ∧ Usable (ofTree closed) := by
  induction h generalizing asItem with
  | object nodup defined h ih =>
    obtain ⟨closed, hclosed, hmatched⟩ :=
      exists_closeProperties (R := fun _ schema => Usable schema) fun p hp => ih p hp false
    exact ⟨_, close_object defined hclosed asItem, usable_object hmatched nodup _⟩
  | array hitems h ih =>
    obtain ⟨closed, hclosed, husable⟩ := ih true
    exact ⟨_, close_array hclosed asItem _, usable_array husable h⟩
  | itemless h =>
    exact ⟨_, close_itemless asItem _, usable_array (usable_string .empty) h⟩
  | string h => exact ⟨_, close_of_isLeaf (.string _) asItem, usable_string h⟩
  | number b => exact ⟨_, close_of_isLeaf (.number b) asItem, usable_number b⟩
  | boolean => exact ⟨_, close_of_isLeaf .boolean asItem, usable_boolean⟩
  | enum values => exact ⟨_, close_of_isLeaf (.enum values) asItem, usable_enum values⟩
  | unknown =>
    refine ⟨_, close_unknown asItem, ?_⟩
    cases asItem with
    | true => exact usable_string .empty
    | false => exact usable_empty

/-- The fallback document is usable. -/
lemma usable_fallback : Usable fallback := by
  have hsize : ∀ low high : ℕ, Usable (boundedString low high) := by
    intro low high
    refine .leaf (by decide) ?_
    intro m hm
    simp only [List.mem_cons, List.not_mem_nil, or_false] at hm
    rcases hm with rfl | rfl
    · exact .size (by decide) ⟨low, rfl⟩
    · exact .size (by decide) ⟨high, rfl⟩
  refine .object _ (by decide) ?_
  intro p hp
  simp only [List.mem_cons, List.not_mem_nil, or_false] at hp
  rcases hp with rfl | rfl
  · exact hsize 3 100
  · exact hsize 10 500

/-- A sound tree has a document, and it is usable. -/
theorem usable_of_ofRoot {tree : TypeTree} (h : tree.Sound) :
    ∃ document, ofRoot tree = .ok document ∧ Usable document := by
  obtain ⟨closed, hclosed, husable⟩ := usable_of_close h false
  by_cases hunknown : tree = .unknown
  · rw [hunknown]
    exact ⟨fallback, rfl, usable_fallback⟩
  · refine ⟨ofTree closed, ?_, husable⟩
    rw [ofRoot_of_ne_unknown hunknown, hclosed]
    rfl

end Document
end SlideContract
