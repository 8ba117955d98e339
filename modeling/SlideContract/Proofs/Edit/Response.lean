import SlideContract.Edit.Response
import SlideContract.Proofs.Edit.Kept

/-!
# Response schemas of usable documents

A property that is added at the top of a usable document leaves it without problems, also where the
document describes no object. The response schema of a usable document is therefore as good as the
document.

* `problems_of_usable`: a usable document has no problems;
* `problemsAt_addProperty`: nor has it with one more required property;
* `problems_response`: nor has its response schema.
-/

namespace SlideContract.Edit
open Schema Document

/-- What the top of a document says of its properties. -/
structure Outline (members properties : List (String × Json)) (required : List String) : Prop where
  getProperties : ((Entries.get? "properties" members).bind Json.members?).getD [] = properties
  getRequired : (Entries.get? "required" members).getD (.arr []) = .arr (required.map .str)
  nodup : (Entries.names properties).Nodup
  requiredNodup : required.Nodup
  defined : ∀ name ∈ required, name ∈ Entries.names properties
  usable : ∀ p ∈ properties, Usable p.2

lemma get?_annotations (name : String) (hname : name ∈ ["properties", "required"])
    {members : List (String × Json)} (h : ∀ m ∈ members, Annotation m) :
    Entries.get? name members = none := by
  cases hget : Entries.get? name members with
  | none => rfl
  | some value =>
    cases h _ (Entries.mem_of_get? hget) with
    | size hother hn =>
      simp only [List.mem_cons, List.not_mem_nil, or_false] at hname hother
      rcases hname with rfl | rfl <;> simp at hother
    | bound hother n =>
      simp only [List.mem_cons, List.not_mem_nil, or_false] at hname hother
      rcases hname with rfl | rfl <;> simp at hother
    | enum values => exact absurd hname (by decide)
    | description text => exact absurd hname (by decide)

/-- A schema that does not speak of properties has none at its top. -/
lemma Outline.none {members : List (String × Json)}
    (hproperties : Entries.get? "properties" members = Option.none)
    (hrequired : Entries.get? "required" members = Option.none) : Outline members [] [] where
  getProperties := by rw [hproperties]; rfl
  getRequired := by rw [hrequired]; rfl
  nodup := List.nodup_nil
  requiredNodup := List.nodup_nil
  defined _ h := absurd h List.not_mem_nil
  usable _ h := absurd h List.not_mem_nil

/-- An object schema speaks of its properties, and requires some of them. -/
lemma outline_objectSchema {members properties : List (String × Json)} {required : List String}
    (hmembers : objectSchema properties required = .obj members)
    (nodup : (Entries.names properties).Nodup) (h : ∀ p ∈ properties, Usable p.2) :
    Outline members properties ((Entries.names properties).filter (required.contains ·)) := by
  obtain ⟨-, hproperties, -, hrequired⟩ := get?_objectSchema hmembers
  refine ⟨?_, hrequired, nodup, nodup.filter _, ?_, h⟩
  · rw [hproperties]
    rfl
  · exact fun name hname => List.mem_of_mem_filter hname

lemma outline_of_usable {members : List (String × Json)} (h : Usable (.obj members)) :
    ∃ properties required, Outline members properties required := by
  generalize hschema : Json.obj members = schema at h
  cases h with
  | leaf htype h =>
    rw [Json.obj.inj hschema]
    have hproperties := get?_annotations "properties" (by decide) h
    have hrequired := get?_annotations "required" (by decide) h
    exact ⟨[], [], .none hproperties hrequired⟩
  | array hitems h =>
    rw [Json.obj.inj hschema]
    have hproperties := get?_annotations "properties" (by decide) h
    have hrequired := get?_annotations "required" (by decide) h
    exact ⟨[], [], .none hproperties hrequired⟩
  | object required nodup h => exact ⟨_, _, outline_objectSchema hschema.symm nodup h⟩

/-! ## Adding a property -/

/-- Names with one more. -/
def withName (name : String) (names : List String) : List String :=
  if name ∈ names then names else names ++ [name]

lemma mem_withName {name other : String} {names : List String} :
    other ∈ withName name names ↔ other = name ∨ other ∈ names := by
  unfold withName
  split
  · rename_i h
    constructor
    · exact Or.inr
    · rintro (rfl | h')
      · exact h
      · exact h'
  · simp [or_comm]

lemma nodup_withName {name : String} {names : List String} (h : names.Nodup) :
    (withName name names).Nodup := by
  unfold withName
  split
  · exact h
  · rename_i hnot
    exact List.nodup_append.2 ⟨h, List.nodup_singleton _, by
      intro a ha b hb
      rw [List.mem_singleton.1 hb]
      rintro rfl
      exact hnot ha⟩

lemma setRequired_strings (name : String) (names : List String) :
    setRequired name true (names.map .str) = (withName name names).map .str := by
  have hany : (names.map Json.str).any (isName name) = decide (name ∈ names) := by
    rw [Bool.eq_iff_iff]
    simp [isName]
  unfold setRequired withName
  rw [if_pos rfl, hany]
  by_cases h : name ∈ names <;> simp [h]

/-- A property that is added comes among the properties and the required names. -/
lemma addProperty_eq {members properties : List (String × Json)} {required : List String}
    (h : Outline members properties required) (name : String) (schema : Json) :
    addProperty members name schema true =
      Entries.set "required" (.arr ((withName name required).map .str))
        (Entries.set "properties" (.obj (Entries.set name schema properties)) members) := by
  have hne : (withName name required).map Json.str ≠ [] := by
    intro hnil
    have hmem : name ∈ withName name required := mem_withName.2 (Or.inl rfl)
    rw [List.map_eq_nil_iff.1 hnil] at hmem
    exact absurd hmem List.not_mem_nil
  -- an absent list of required names is the same as an empty one
  have hcases : Entries.get? "required" members = none ∧ required = [] ∨
      Entries.get? "required" members = some (.arr (required.map .str)) := by
    have hrequired := h.getRequired
    cases hget : Entries.get? "required" members with
    | none =>
      rw [hget] at hrequired
      exact Or.inl ⟨rfl, List.map_eq_nil_iff.1 (Json.arr.inj hrequired).symm⟩
    | some value =>
      rw [hget, Option.getD_some] at hrequired
      exact Or.inr (by rw [hrequired])
  have hset := setRequired_strings name required
  unfold addProperty
  simp only [h.getProperties, Entries.get?_set_of_ne (show "required" ≠ "properties" by decide)]
  rcases hcases with ⟨hget, rfl⟩ | hget
  · rw [List.map_nil] at hset
    simp only [hget, hset]
  · simp only [hget, hset]

lemma get?_addProperty {members properties : List (String × Json)} {required : List String}
    (h : Outline members properties required) (name : String) (schema : Json) {keyword : String}
    (hrequired : keyword ≠ "required") (hproperties : keyword ≠ "properties") :
    Entries.get? keyword (addProperty members name schema true)
      = Entries.get? keyword members := by
  rw [addProperty_eq h, Entries.get?_set_of_ne hrequired, Entries.get?_set_of_ne hproperties]

/-- What follows for each member of a document with one more property. -/
lemma mem_addProperty {members properties : List (String × Json)} {required : List String}
    (h : Outline members properties required) {name : String} {schema : Json} {m : String × Json}
    (hm : m ∈ addProperty members name schema true) :
    m = ("required", .arr ((withName name required).map .str)) ∨
      m = ("properties", .obj (Entries.set name schema properties)) ∨ m ∈ members := by
  rw [addProperty_eq h] at hm
  rcases Entries.mem_set hm with rfl | hm
  · exact Or.inl rfl
  · exact Or.inr (Entries.mem_set hm)

/-- A usable document with one more property of a usable schema, required, is strict. -/
lemma problemsAt_addProperty {members properties : List (String × Json)} {required : List String}
    (husable : Usable (.obj members)) (houtline : Outline members properties required)
    (name : String)
    {schema : Json} (hschema : Usable schema) (location : String) :
    Strict.problemsAt location (.obj (addProperty members name schema true)) = .ok [] := by
  have htype := get?_addProperty houtline name schema (show "type" ≠ "required" by decide)
    (show "type" ≠ "properties" by decide)
  -- only an object has properties that are looked at, so of the other kinds nothing new is
  -- checked
  generalize hobj : Json.obj members = document at husable
  cases husable with
  | leaf hleaf h =>
    refine problemsAt_leaf ?_ hleaf
    rw [htype, Json.obj.inj hobj]
    rfl
  | array hitems h =>
    refine problemsAt_array ?_ ?_ (isConcrete_of_usable hitems) (problemsAt_of_usable hitems)
    · rw [htype, Json.obj.inj hobj]
      rfl
    · rw [get?_addProperty houtline name schema (by decide) (by decide), Json.obj.inj hobj]
      rfl
  | object names nodup h =>
    obtain ⟨hobject, -, hclosed, -⟩ := get?_objectSchema hobj.symm
    have hclosed' := (get?_addProperty houtline name schema (by decide) (by decide)).trans hclosed
    have hproperties : Entries.get? "properties" (addProperty members name schema true)
        = some (.obj (Entries.set name schema properties)) := by
      rw [addProperty_eq houtline, Entries.get?_set_of_ne (by decide), Entries.get?_set_self]
    have hrequired : (Entries.get? "required" (addProperty members name schema true)).getD (.arr [])
        = .arr ((withName name required).map .str) := by
      rw [addProperty_eq houtline, Entries.get?_set_self]
      rfl
    refine problemsAt_object (htype.trans hobject) hclosed' hproperties hrequired ?_ ?_
    · intro other hother
      rw [Entries.mem_names_set]
      exact (mem_withName.1 hother).imp id (houtline.defined other)
    · intro p hp
      rcases Entries.mem_set hp with rfl | hp
      · exact problemsAt_of_usable hschema
      · exact problemsAt_of_usable (houtline.usable p hp)

/-- Nor is anything wrong with it as a Draft 7 schema. -/
lemma inspect_addProperty {members properties : List (String × Json)} {required : List String}
    (husable : Usable (.obj members)) (houtline : Outline members properties required)
    (name : String)
    {schema : Json} (hschema : Usable schema) :
    Draft.inspect (.obj (addProperty members name schema true)) = .clear := by
  obtain ⟨-, hmembers⟩ := inspection_of_usable husable
  apply inspect_obj_eq_clear
  intro m hm
  rcases mem_addProperty houtline hm with rfl | rfl | hm
  · exact inspection_required (nodup_withName houtline.requiredNodup)
  · apply inspection_properties
    intro p hp
    rcases Entries.mem_set hp with rfl | hp
    · exact inspect_of_usable hschema
    · exact inspect_of_usable (houtline.usable p hp)
  · exact hmembers members rfl m hm

/-- And its objects are closed already. -/
lemma close_addProperty {members properties : List (String × Json)} {required : List String}
    (husable : Usable (.obj members)) (houtline : Outline members properties required)
    (name : String)
    {schema : Json} (hschema : Usable schema) :
    close (.obj (addProperty members name schema true))
      = .ok (.obj (addProperty members name schema true)) := by
  -- of the members only the properties lead to schemas, and the new one is closed as they are
  obtain ⟨members', heq, hmembers, hclosed⟩ := closed_of_usable husable
  rw [← Json.obj.inj heq] at hmembers hclosed
  refine close_obj_eq_self_iff.2 ⟨?_, ?_⟩
  · intro m hm
    rcases mem_addProperty houtline hm with rfl | rfl | hm
    · rfl
    · apply closeMember_properties
      intro p hp
      rcases Entries.mem_set hp with rfl | hp
      · exact close_of_usable hschema
      · exact close_of_usable (houtline.usable p hp)
    · exact hmembers m hm
  · intro hobject
    unfold isObjectSchema at hobject hclosed
    unfold Entries.has at hclosed ⊢
    rw [get?_addProperty houtline name schema (by decide) (by decide)] at hobject ⊢
    exact hclosed hobject

/-! ## Documents -/

/-- A document in order as a schema and as a strict document has no problems. -/
lemma problems_eq_nil {document : Json} (hinspect : Draft.inspect document = .clear)
    (hstrict : Strict.problemsAt "root" document = .ok []) :
    Strict.problems document = .ok [] := by
  unfold Strict.problems
  rw [hinspect, hstrict]
  rfl

/-- A usable document has no problems. -/
theorem problems_of_usable {document : Json} (h : Usable document) :
    Strict.problems document = .ok [] :=
  problems_eq_nil (inspect_of_usable h) (problemsAt_of_usable h "root")

lemma usable_noteSchema : Usable noteSchema := by
  refine .leaf (by decide) ?_
  intro m hm
  simp only [List.mem_cons, List.not_mem_nil, or_false] at hm
  rcases hm with rfl | rfl | rfl
  · exact .size (by decide) ⟨100, rfl⟩
  · exact .size (by decide) ⟨250, rfl⟩
  · exact .description _

/-- What is left of a usable document with the note is closed already. -/
lemma response_eq {document : Json} {members : List (String × Json)}
    (hpruned : prune mediaFields document = .ok (.obj members)) (husable : Usable (.obj members)) :
    response document = .ok (.obj (addProperty members noteField noteSchema true)) := by
  obtain ⟨properties, required, houtline⟩ := outline_of_usable husable
  unfold response
  rw [hpruned]
  show close (.obj (addProperty members noteField noteSchema true)) = _
  exact close_addProperty husable houtline noteField usable_noteSchema

/-- A usable document has a response schema, and this has no problems. -/
theorem problems_response {document : Json} (h : Usable document) :
    ∃ answer, response document = .ok answer ∧ Strict.problems answer = .ok [] := by
  obtain ⟨pruned, hpruned, husable⟩ := usable_of_prune h mediaFields
  obtain ⟨members, rfl⟩ := husable.exists_obj
  obtain ⟨properties, required, houtline⟩ := outline_of_usable husable
  refine ⟨_, response_eq hpruned husable, ?_⟩
  exact problems_eq_nil (inspect_addProperty husable houtline noteField usable_noteSchema)
    (problemsAt_addProperty husable houtline noteField usable_noteSchema "root")

end SlideContract.Edit
