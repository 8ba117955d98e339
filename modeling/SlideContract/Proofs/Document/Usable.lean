import Mathlib.Tactic.Common
import SlideContract.Document
import SlideContract.Proofs.Entries
import SlideContract.Proofs.Schema.Unique
import SlideContract.Schema.Strict

/-!
# Usable schemas

The schemas that documents are built of: leaves that only annotate a type, arrays with an item
schema, and closed objects that require some of their properties. Each is a valid Draft 7 schema in
which the strict check finds nothing.

* `Usable`: such a schema;
* `inspect_of_usable`: nothing is wrong with it as a Draft 7 schema;
* `problemsAt_of_usable`: nor as a strict document.
-/

namespace SlideContract

/-- A number that a size is compared with. -/
def Number.IsSize (n : Number) : Prop := ∃ size : ℕ, n = .int size

namespace Document
open Schema

/-- A member of a schema that says nothing of further schemas. -/
inductive Annotation : String × Json → Prop where
  | size {name : String} (hname : name ∈ ["minLength", "maxLength", "minItems", "maxItems"])
    {n : Number} (h : n.IsSize) : Annotation (name, .num n)
  | bound {name : String} (hname : name ∈ ["minimum", "maximum"]) (n : Number) :
    Annotation (name, .num n)
  | enum (values : List String) : Annotation ("enum", .arr (values.map .str))
  | description (text : String) : Annotation ("description", .str text)

/-- A schema that documents are built of. -/
inductive Usable : Json → Prop where
  | leaf {type : String} {members : List (String × Json)}
    (htype : type ∈ ["string", "number", "boolean"])
    (h : ∀ member ∈ members, Annotation member) : Usable (typed type members)
  | array {items : Json} {members : List (String × Json)} (hitems : Usable items)
    (h : ∀ member ∈ members, Annotation member) :
    Usable (typed "array" (("items", items) :: members))
  | object {properties : List (String × Json)} (required : List String)
    (nodup : (Entries.names properties).Nodup)
    (h : ∀ property ∈ properties, Usable property.2) : Usable (objectSchema properties required)

lemma Usable.exists_obj {schema : Json} (h : Usable schema) :
    ∃ members, schema = .obj members := by
  cases h <;> exact ⟨_, rfl⟩

/-! ## Validity -/

/-- The inspection of one keyword of a schema. -/
def inspection (name : String) (v : Json) : Inspection :=
  match Draft.ruleOf name, v with
  | .schema, v => Draft.inspect v
  | .schemas, .arr items => Draft.inspectSchemas (.arr items) (Draft.inspectItems items)
  | .oneOrMore, .arr items =>
    .either (Keyword.noneValid (.arr items))
      [Draft.inspectSchemas (.arr items) (Draft.inspectItems items)]
  | .oneOrMore, v => .either (Keyword.noneValid v) [Draft.inspect v]
  | .named, .obj members => Draft.inspectNamed (.obj members) (Draft.inspectMembers members)
  | .patterns, .obj members => Draft.inspectPatterns (.obj members) (Draft.inspectMembers members)
  | .dependencies, .obj members =>
    Draft.inspectDependencies (.obj members) (Draft.inspectMembers members)
  | rule, v => Draft.inspectPlain rule v

lemma inspectKeywords_eq (members : List (String × Json)) :
    Draft.inspectKeywords members = members.map fun m => (m.1, inspection m.1 m.2) := by
  induction members with
  | nil => rw [Draft.inspectKeywords, List.map_nil]
  | cons m rest ih =>
    obtain ⟨name, v⟩ := m
    unfold Draft.inspectKeywords
    rw [List.map_cons, ih]
    rfl

lemma inspectMembers_eq (members : List (String × Json)) :
    Draft.inspectMembers members = members.map fun m => (m.1, m.2, Draft.inspect m.2) := by
  induction members with
  | nil => rw [Draft.inspectMembers, List.map_nil]
  | cons m rest ih =>
    obtain ⟨name, v⟩ := m
    rw [Draft.inspectMembers, List.map_cons, ih]

lemma all_eq_clear {inspections : List Inspection} (h : ∀ i ∈ inspections, i = .clear) :
    Inspection.all inspections = .clear := by
  induction inspections with
  | nil => rfl
  | cons i rest ih =>
    rw [Inspection.all, h i List.mem_cons_self, ih fun j hj => h j (List.mem_cons_of_mem _ hj)]
    rfl

/-- A schema is valid if each of its keywords is. -/
lemma inspect_obj_eq_clear {members : List (String × Json)}
    (h : ∀ m ∈ members, inspection m.1 m.2 = .clear) : Draft.inspect (.obj members) = .clear := by
  rw [Draft.inspect, Draft.inOrder, inspectKeywords_eq]
  apply all_eq_clear
  intro i hi
  obtain ⟨rule, -, hget⟩ := List.mem_filterMap.1 hi
  obtain ⟨m, hm, heq⟩ := List.mem_map.1 (Entries.mem_of_get? hget)
  obtain ⟨-, rfl⟩ := Prod.mk.inj heq
  exact h m hm

lemma not_lt_zero_of_isSize {n : Number} (h : n.IsSize) : n.lt (.int 0) = false := by
  obtain ⟨size, rfl⟩ := h
  have : ¬ compare ((size : Int) * 1) (0 * 1) = .lt := by
    rw [Int.compare_eq_lt]
    omega
  simpa [Number.lt, Number.order?, Number.ratio?] using this

lemma inspectPlain_size {n : Number} (h : n.IsSize) :
    Draft.inspectPlain .size (.num n) = .clear := by
  have hinteger : Keyword.hasTypeNamed (.num n) "integer" = .ok true := by
    obtain ⟨size, rfl⟩ := h
    rfl
  show Draft.typed "integer" (.num n) (Draft.bounded (.num n) (·.lt (.int 0)) _) = _
  rw [Draft.typed, hinteger, Draft.bounded, not_lt_zero_of_isSize h]
  rfl

lemma inspection_of_annotation {m : String × Json} (h : Annotation m) :
    inspection m.1 m.2 = .clear := by
  cases h with
  | size hname hn =>
    simp only [List.mem_cons, List.not_mem_nil, or_false] at hname
    rcases hname with rfl | rfl | rfl | rfl <;> exact inspectPlain_size hn
  | bound hname n =>
    simp only [List.mem_cons, List.not_mem_nil, or_false] at hname
    rcases hname with rfl | rfl <;> rfl
  | enum values => rfl
  | description text => rfl

lemma inspection_type {type : String}
    (h : type ∈ ["string", "number", "boolean", "array", "object"]) :
    inspection "type" (.str type) = .clear := by
  simp only [List.mem_cons, List.not_mem_nil, or_false] at h
  rcases h with rfl | rfl | rfl | rfl | rfl <;> rfl

/-- A list of required names is valid if they are distinct. -/
lemma inspection_required {names : List String} (h : names.Nodup) :
    inspection "required" (.arr (names.map .str)) = .clear := by
  have hstrings : Inspection.all
      ((names.map Json.str).map fun item => Draft.typed "string" item .clear) = .clear := by
    apply all_eq_clear
    intro i hi
    rw [List.map_map] at hi
    obtain ⟨name, -, rfl⟩ := List.mem_map.1 hi
    rfl
  show Draft.inspectTexts (.arr (names.map .str)) = .clear
  rw [Draft.inspectTexts, Draft.itemsOf, hstrings, Draft.distinct, Json.areUnique_strings h]
  rfl

lemma inspection_properties {properties : List (String × Json)}
    (h : ∀ p ∈ properties, Draft.inspect p.2 = .clear) :
    inspection "properties" (.obj properties) = .clear := by
  show Draft.inspectNamed (.obj properties) (Draft.inspectMembers properties) = .clear
  rw [inspectMembers_eq, Draft.inspectNamed, all_eq_clear]
  · rfl
  · intro i hi
    rw [List.map_map] at hi
    obtain ⟨p, hp, rfl⟩ := List.mem_map.1 hi
    exact h p hp

lemma inspection_items {members : List (String × Json)}
    (h : Draft.inspect (.obj members) = .clear) :
    inspection "items" (.obj members) = .clear := by
  show Inspection.either _ [Draft.inspect (.obj members)] = .clear
  rw [h]
  rfl

lemma inspection_closed : inspection "additionalProperties" (.bool false) = .clear := by
  show Draft.inspect (.bool false) = .clear
  rw [Draft.inspect]

/-- The members of an object schema are in order if its properties are. -/
lemma inspection_of_mem_objectSchema {properties : List (String × Json)} {required : List String}
    {members : List (String × Json)} (hmembers : objectSchema properties required = .obj members)
    (nodup : (Entries.names properties).Nodup)
    (h : ∀ p ∈ properties, Draft.inspect p.2 = .clear) :
    ∀ m ∈ members, inspection m.1 m.2 = .clear := by
  unfold objectSchema typed at hmembers
  rw [← Json.obj.inj hmembers]
  intro m hm
  simp only [List.cons_append, List.mem_cons, List.mem_append, List.not_mem_nil, or_false] at hm
  rcases hm with rfl | rfl | hrequired | rfl
  · exact inspection_type (by decide)
  · exact inspection_properties h
  · split at hrequired
    · simp at hrequired
    · rw [List.mem_singleton] at hrequired
      rw [hrequired]
      exact inspection_required (nodup.filter _)
  · exact inspection_closed

/-- The members of a usable schema are in order, and so is the schema. -/
lemma inspection_of_usable {schema : Json} (h : Usable schema) :
    Draft.inspect schema = .clear ∧
      ∀ members, schema = .obj members → ∀ m ∈ members, inspection m.1 m.2 = .clear := by
  suffices hmembers : ∃ members, schema = .obj members ∧
      ∀ m ∈ members, inspection m.1 m.2 = .clear by
    obtain ⟨members, rfl, hall⟩ := hmembers
    refine ⟨inspect_obj_eq_clear hall, ?_⟩
    intro members' heq
    exact Json.obj.inj heq ▸ hall
  -- the schemas inside are in order by the hypothesis, and no annotation holds any
  induction h with
  | leaf htype h =>
    refine ⟨_, rfl, ?_⟩
    intro m hm
    rcases List.mem_cons.1 hm with rfl | hm
    · exact inspection_type (by simp only [List.mem_cons, List.not_mem_nil] at htype ⊢; tauto)
    · exact inspection_of_annotation (h m hm)
  | array hitems h ih =>
    obtain ⟨inner, rfl, hinner⟩ := ih
    refine ⟨_, rfl, ?_⟩
    intro m hm
    rcases List.mem_cons.1 hm with rfl | hm
    · exact inspection_type (by decide)
    rcases List.mem_cons.1 hm with rfl | hm
    · exact inspection_items (inspect_obj_eq_clear hinner)
    · exact inspection_of_annotation (h m hm)
  | object required nodup h ih =>
    refine ⟨_, rfl, inspection_of_mem_objectSchema rfl nodup ?_⟩
    intro p hp
    obtain ⟨inner, heq, hinner⟩ := ih p hp
    rw [heq]
    exact inspect_obj_eq_clear hinner

/-- A usable schema is a valid Draft 7 schema. -/
theorem inspect_of_usable {schema : Json} (h : Usable schema) : Draft.inspect schema = .clear :=
  (inspection_of_usable h).1

/-! ## Strictness -/

lemma problemsOfProperties_eq (location : String) (members : List (String × Json)) :
    Strict.problemsOfProperties location members =
      match Entries.get? "properties" members with
      | some (.obj properties) => Strict.problemsOfNamed location properties
      | _ => .ok [] := by
  induction members with
  | nil =>
    unfold Strict.problemsOfProperties
    rfl
  | cons m rest ih =>
    obtain ⟨name, v⟩ := m
    unfold Strict.problemsOfProperties Entries.get?
    split
    · cases v <;> rfl
    · exact ih

lemma problemsOfItems_eq (location : String) (members : List (String × Json)) :
    Strict.problemsOfItems location members =
      match Entries.get? "items" members with
      | some items =>
        if Strict.isConcrete items then Strict.problemsAt (location ++ "[]") items else .ok []
      | none => .ok [] := by
  induction members with
  | nil =>
    unfold Strict.problemsOfItems
    rfl
  | cons m rest ih =>
    obtain ⟨name, v⟩ := m
    unfold Strict.problemsOfItems Entries.get?
    split
    · rfl
    · exact ih

lemma problemsOfNamed_eq_nil {location : String} {properties : List (String × Json)}
    (h : ∀ p ∈ properties, ∀ location, Strict.problemsAt location p.2 = .ok []) :
    Strict.problemsOfNamed location properties = .ok [] := by
  induction properties with
  | nil =>
    unfold Strict.problemsOfNamed
    rfl
  | cons p rest ih =>
    obtain ⟨name, v⟩ := p
    unfold Strict.problemsOfNamed
    rw [h (name, v) List.mem_cons_self, ih fun q hq => h q (List.mem_cons_of_mem _ hq)]
    rfl

lemma undefinedNames_eq_nil {properties : List (String × Json)} {names : List String}
    (h : ∀ name ∈ names, name ∈ Entries.names properties) :
    Strict.undefinedNames properties (names.map .str) = .ok [] := by
  induction names with
  | nil => rfl
  | cons name rest ih =>
    have hname : Entries.has name properties = true :=
      (Entries.has_iff_mem_names _ _).2 (h name List.mem_cons_self)
    rw [List.map_cons, Strict.undefinedNames, ih fun n hn => h n (List.mem_cons_of_mem _ hn)]
    show Except.ok (if Entries.has name properties then _ else _) = _
    rw [hname]
    rfl

/-- Nothing is wrong with a closed object schema that has properties, requires only these, and
whose properties are in order. -/
lemma problemsAt_object {location : String} {members properties : List (String × Json)}
    {required : List String}
    (htype : Entries.get? "type" members = some (.str "object"))
    (hclosed : Entries.get? "additionalProperties" members = some (.bool false))
    (hproperties : Entries.get? "properties" members = some (.obj properties))
    (hrequired : (Entries.get? "required" members).getD (.arr []) = .arr (required.map .str))
    (hdefined : ∀ name ∈ required, name ∈ Entries.names properties)
    (h : ∀ p ∈ properties, ∀ location, Strict.problemsAt location p.2 = .ok []) :
    Strict.problemsAt location (.obj members) = .ok [] := by
  have hobject : Strict.objectProblems location members = .ok [] := by
    unfold Strict.objectProblems Strict.properties? Strict.isClosed
    rw [hclosed, hproperties, hrequired]
    show (do
      let undefined ← Strict.undefinedNames properties (required.map .str)
      return [] ++ [] ++ undefined.map _ : Except Schema.Fault (List String)) = _
    rw [undefinedNames_eq_nil hdefined]
    rfl
  unfold Strict.problemsAt Strict.typeOf
  rw [htype, hobject, problemsOfProperties_eq, hproperties]
  simp only [problemsOfNamed_eq_nil h]
  rfl

/-- Nothing is wrong with an array schema whose items state a type and are in order. -/
lemma problemsAt_array {location : String} {members : List (String × Json)} {items : Json}
    (htype : Entries.get? "type" members = some (.str "array"))
    (hitems : Entries.get? "items" members = some items)
    (hconcrete : Strict.isConcrete items = true)
    (h : ∀ location, Strict.problemsAt location items = .ok []) :
    Strict.problemsAt location (.obj members) = .ok [] := by
  have harray : Strict.arrayProblems location members = [] := by
    unfold Strict.arrayProblems
    rw [hitems, Option.any_some, hconcrete]
    rfl
  unfold Strict.problemsAt Strict.typeOf
  rw [htype, harray, problemsOfItems_eq, hitems]
  simp only [hconcrete, h]
  rfl

/-- Nothing is wrong with a schema of a type that leads to no schemas. -/
lemma problemsAt_leaf {location type : String} {members : List (String × Json)}
    (htype : Entries.get? "type" members = some (.str type))
    (h : type ∈ ["string", "number", "boolean"]) :
    Strict.problemsAt location (.obj members) = .ok [] := by
  unfold Strict.problemsAt Strict.typeOf
  rw [htype]
  simp only [List.mem_cons, List.not_mem_nil, or_false] at h
  rcases h with rfl | rfl | rfl <;> rfl

lemma isConcrete_of_usable {schema : Json} (h : Usable schema) :
    Strict.isConcrete schema = true := by
  cases h <;> rfl

/-- What an object schema says under its keywords. -/
lemma get?_objectSchema {properties members : List (String × Json)} {required : List String}
    (h : objectSchema properties required = .obj members) :
    Entries.get? "type" members = some (.str "object") ∧
    Entries.get? "properties" members = some (.obj properties) ∧
    Entries.get? "additionalProperties" members = some (.bool false) ∧
    (Entries.get? "required" members).getD (.arr [])
      = .arr (((Entries.names properties).filter (required.contains ·)).map .str) := by
  unfold objectSchema typed at h
  rw [← Json.obj.inj h]
  refine ⟨rfl, rfl, ?_, ?_⟩
  · split <;> rfl
  · split
    · rename_i hempty
      rw [List.isEmpty_iff.1 hempty]
      rfl
    · rfl

/-- A usable schema has no problems as a strict document. -/
theorem problemsAt_of_usable {schema : Json} (h : Usable schema) (location : String) :
    Strict.problemsAt location schema = .ok [] := by
  induction h generalizing location with
  | leaf htype h => exact problemsAt_leaf rfl htype
  | array hitems h ih => exact problemsAt_array rfl rfl (isConcrete_of_usable hitems) ih
  | object required nodup h ih =>
    obtain ⟨htype, hproperties, hclosed, hrequired⟩ := get?_objectSchema rfl
    refine problemsAt_object htype hclosed hproperties hrequired ?_ ih
    exact fun name hname => List.mem_of_mem_filter hname

end Document
end SlideContract
