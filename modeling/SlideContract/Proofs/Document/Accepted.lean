import SlideContract.Proofs.Document.Findings
import SlideContract.Proofs.Document.Usable

/-!
# What documents accept

A schema accepts a value in which it finds nothing. Its keywords have to find nothing one by one,
whatever their order: an array schema accepts the lists of a right length whose items it accepts,
and a closed object schema accepts the objects that have the required names and no others than those
of the properties, with values that these accept.

* `accepts_obj_iff`: a schema accepts what all of its keywords accept;
* `accepts_array`, `accepts_item`: what array schemas accept;
* `accepts_closed_iff`: what the schemas of closed objects accept.
-/

namespace SlideContract

namespace Schema

variable {a b found : Found} {l : List (Location × String)}

/-- A check whose findings are known finds nothing exactly if there are none. -/
lemma Finds.nil_iff (h : Finds found l) : Finds found [] ↔ l = [] := by
  constructor
  · intro hnil
    exact List.perm_nil.1 (h.perm.symm.trans hnil.perm)
  · rintro rfl
    exact h

lemma finds_andThen_nil : Finds (a.andThen b) [] ↔ Finds a [] ∧ Finds b [] := by
  refine ⟨fun h => ?_, fun ⟨ha, hb⟩ => ha.andThen hb⟩
  have hfault := h.fault
  have hperm := h.perm
  unfold Found.andThen at hfault hperm
  split at hfault
  · rename_i fault hsome
    rw [hsome] at hfault
    exact absurd hfault (by simp)
  · rename_i hnone
    rw [hnone] at hperm
    rw [List.map_append] at hperm
    obtain ⟨ha, hb⟩ := List.append_eq_nil_iff.1 (List.perm_nil.1 hperm)
    exact ⟨⟨hnone, by rw [ha]⟩, ⟨hfault, by rw [hb]⟩⟩

lemma finds_all_nil {α : Type} {items : List α} {check : α → Found} :
    Finds (.all (items.map check)) [] ↔ ∀ item ∈ items, Finds (check item) [] := by
  induction items with
  | nil => exact ⟨fun _ _ h => absurd h List.not_mem_nil, fun _ => .nothing⟩
  | cons item rest ih =>
    rw [List.map_cons, List.forall_mem_cons, ← ih]
    exact finds_andThen_nil

lemma finds_below_nil {step : Step} : Finds (found.below step) [] ↔ Finds found [] := by
  refine ⟨fun h => ⟨h.fault, ?_⟩, fun h => h.below step⟩
  have hnil := List.perm_nil.1 h.perm
  unfold Found.below at hnil
  rw [List.map_eq_nil_iff.1 (List.map_eq_nil_iff.1 hnil)]
  exact .nil

/-- A part of a value is accepted where the schema finds nothing in it. -/
lemma finds_checkPart_nil {schema : Json} {check : Check} {step : Step} {v : Json} :
    Finds (Keyword.checkPart schema check step v) [] ↔ Finds (check v) [] := by
  unfold Keyword.checkPart
  split
  · exact Iff.rfl
  · exact finds_below_nil

end Schema

namespace Document
open Schema

/-- A schema accepts a value in which it finds nothing. -/
def Accepts (schema v : Json) : Prop := Finds (check schema v) []

variable {keywords : List Keyword} {members : List (String × Json)} {v : Json}

lemma part_cons_nil {m : String × Json} :
    Finds (part keywords (m :: members) v) [] ↔
      Finds (part keywords [m] v) [] ∧ Finds (part keywords members v) [] := by
  have happend : part keywords (m :: members) v
      = (part keywords [m] v).andThen (part keywords members v) := by
    unfold part
    rw [← Found.all_append, ← List.map_append, ← keywordsOf_append]
    rfl
  rw [happend, finds_andThen_nil]

lemma part_nil_iff :
    Finds (part keywords members v) [] ↔ ∀ m ∈ members, Finds (part keywords [m] v) [] := by
  induction members with
  | nil => exact ⟨fun _ _ h => absurd h List.not_mem_nil, fun _ => finds_part_nil _ _⟩
  | cons m rest ih => rw [part_cons_nil, List.forall_mem_cons, ih]

/-- A schema accepts a value in which each of its keywords finds nothing. -/
theorem accepts_obj_iff :
    Accepts (.obj members) v ↔ ∀ m ∈ members, Finds (part (keywordsOf members) [m] v) [] := by
  unfold Accepts
  rw [check_obj, part_nil_iff]

/-! ## Keywords that find nothing -/

lemma type_nil_iff {type : String}
    (htype : type ∈ ["object", "array", "string", "number", "boolean"]) :
    Finds (part keywords [("type", .str type)] v) [] ↔ hasType type v = true := by
  rw [(finds_type keywords htype v).nil_iff]
  cases hasType type v <;> simp [Breach.when]

/-- A single keyword finds nothing if its rule does. -/
lemma single_nil_iff {name : String} {value : Json} {k : Keyword}
    (hk : keywordsOf [(name, value)] = [k]) :
    Finds (part keywords [(name, value)] v) [] ↔ Finds (k.check keywords v) [] := by
  unfold part
  rw [hk]
  exact finds_andThen_nil.trans (and_iff_left .nothing)

lemma violatedIf_nil_iff {k : Keyword} {condition : Bool} {message : String} :
    Finds (k.violatedIf v condition message) [] ↔ condition = false := by
  rw [(finds_violatedIf k v condition message).nil_iff]
  cases condition <;> simp

/-- The keyword `items` finds nothing in a list whose items its schema accepts. -/
lemma items_nil_iff {inner : List (String × Json)} {items : List Json} :
    Finds (part keywords [("items", .obj inner)] (.arr items)) [] ↔
      ∀ item ∈ items, Accepts (.obj inner) item := by
  rw [single_nil_iff (by simp only [keywordsOf]; rfl)]
  show Finds (.all (items.zipIdx.map _)) [] ↔ _
  rw [finds_all_nil]
  constructor
  · intro h item hitem
    rw [← List.zipIdx_map_fst 0 items] at hitem
    obtain ⟨numbered, hnumbered, rfl⟩ := List.mem_map.1 hitem
    exact finds_checkPart_nil.1 (h numbered hnumbered)
  · rintro h ⟨item, i⟩ hi
    exact finds_checkPart_nil.2 (h item (List.fst_mem_of_mem_zipIdx hi))

/-- The keyword `properties` finds nothing in an object whose members its schemas accept. -/
lemma properties_nil_iff {schemas : List (String × Json)} :
    Finds (part keywords [("properties", .obj schemas)] (.obj members)) [] ↔
      ∀ p ∈ schemas, ∀ value, Entries.get? p.1 members = some value → Accepts p.2 value := by
  rw [single_nil_iff (by simp only [keywordsOf]; rfl)]
  show Finds (.all ((memberChecks schemas).map _)) [] ↔ _
  -- along the schemas: a member that is missing is not looked at
  induction schemas with
  | nil =>
    simp only [memberChecks]
    exact ⟨fun _ _ h => absurd h List.not_mem_nil, fun _ => .nothing⟩
  | cons p rest ih =>
    obtain ⟨name, schema⟩ := p
    simp only [memberChecks, List.map_cons]
    rw [List.forall_mem_cons, ← ih]
    refine finds_andThen_nil.trans (and_congr_left' ?_)
    cases Entries.get? name members with
    | none => exact ⟨fun _ _ h => absurd h (by simp), fun _ => .nothing⟩
    | some value =>
      refine finds_checkPart_nil.trans ⟨fun h value' heq => ?_, fun h => h value rfl⟩
      rw [← Option.some.inj heq]
      exact h

lemma required_nil_iff {names : List String} :
    Finds (part keywords [("required", .arr (names.map .str))] (.obj members)) [] ↔
      ∀ name ∈ names, Entries.has name members = true := by
  rw [(finds_required keywords names members).nil_iff, List.map_eq_nil_iff,
    List.filter_eq_nil_iff]
  simp

lemma additional_nil_iff {schemas : List (String × Json)}
    (hproperties : (Keyword.get? "properties" keywords).map (·.value) = some (.obj schemas))
    (hpatterns : (Keyword.get? "patternProperties" keywords).map (·.value) = none) :
    Finds (part keywords [("additionalProperties", .bool false)] (.obj members)) [] ↔
      ∀ name ∈ Entries.names members, name ∈ Entries.names schemas := by
  rw [(finds_additional keywords schemas hproperties hpatterns members).nil_iff]
  simp [Breach.when]

/-! ## Usable schemas -/

/-- What a schema of a type accepts has the type. -/
lemma hasType_of_accepts {type : String}
    (htype : type ∈ ["object", "array", "string", "number", "boolean"])
    (hmem : ("type", .str type) ∈ members) (h : Accepts (.obj members) v) :
    hasType type v = true :=
  (type_nil_iff htype).1 (accepts_obj_iff.1 h _ hmem)

/-- An annotation looks at no more of a list than its length. -/
lemma annotation_nil {m : String × Json} (h : Annotation m) {keywords' : List Keyword}
    {items items' : List Json} (hlength : items'.length = items.length)
    (hm : Finds (part keywords [m] (.arr items)) []) :
    Finds (part keywords' [m] (.arr items')) [] := by
  cases h with
  | size hname hn =>
    rw [single_nil_iff (by simp only [keywordsOf]; rfl)] at hm ⊢
    simp only [List.mem_cons, List.not_mem_nil, or_false] at hname
    rcases hname with rfl | rfl | rfl | rfl
    · exact .nothing
    · exact .nothing
    · refine violatedIf_nil_iff.2 ?_
      rw [hlength]
      exact violatedIf_nil_iff.1 hm
    · refine violatedIf_nil_iff.2 ?_
      rw [hlength]
      exact violatedIf_nil_iff.1 hm
  | bound hname n =>
    rw [single_nil_iff (by simp only [keywordsOf]; rfl)]
    simp only [List.mem_cons, List.not_mem_nil, or_false] at hname
    rcases hname with rfl | rfl <;> exact .nothing
  | enum values =>
    -- a list is none of the strings
    have hnone := (finds_enum keywords values (.arr items)).nil_iff.1 hm
    exact absurd hnone (by simp [Breach.when])
  | description text =>
    rw [single_nil_iff (by simp only [keywordsOf]; rfl)]
    exact .nothing

/-- An array schema accepts lists with as many items as another it accepts, if it accepts each of
these. -/
lemma accepts_array {inner inner' annotations : List (String × Json)} {items items' : List Json}
    (hannotations : ∀ m ∈ annotations, Annotation m) (hlength : items'.length = items.length)
    (h : Accepts (typed "array" (("items", .obj inner) :: annotations)) (.arr items))
    (hitems : ∀ item ∈ items', Accepts (.obj inner') item) :
    Accepts (typed "array" (("items", .obj inner') :: annotations)) (.arr items') := by
  unfold typed at h ⊢
  rw [accepts_obj_iff] at h ⊢
  intro m hm
  rcases List.mem_cons.1 hm with rfl | hm
  · exact (type_nil_iff (by decide)).2 rfl
  rcases List.mem_cons.1 hm with rfl | hm
  · exact items_nil_iff.2 hitems
  · have hfound := h m (List.mem_cons_of_mem _ (List.mem_cons_of_mem _ hm))
    exact annotation_nil (hannotations m hm) hlength hfound

/-- The items of a list that an array schema accepts are accepted. -/
lemma accepts_item {inner annotations : List (String × Json)} {items : List Json}
    (h : Accepts (typed "array" (("items", .obj inner) :: annotations)) (.arr items)) {item : Json}
    (hitem : item ∈ items) : Accepts (.obj inner) item :=
  items_nil_iff.1 (accepts_obj_iff.1 h _ (List.mem_cons_of_mem _ List.mem_cons_self)) item hitem

/-- The schema is that of a closed object with these properties and required names. -/
structure Closed (members properties : List (String × Json)) (names : List String) : Prop where
  mem_iff : ∀ m, m ∈ members ↔ m = ("type", .str "object") ∨ m = ("properties", .obj properties) ∨
    (names ≠ [] ∧ m = ("required", .arr (names.map .str))) ∨
    m = ("additionalProperties", .bool false)
  properties : Entries.get? "properties" members = some (.obj properties)
  patterns : Entries.get? "patternProperties" members = none

/-- The members of an object are as a closed object schema says. -/
structure Fits (properties : List (String × Json)) (names : List String)
    (members : List (String × Json)) : Prop where
  accepted : ∀ p ∈ properties, ∀ value, Entries.get? p.1 members = some value → Accepts p.2 value
  required : ∀ name ∈ names, Entries.has name members = true
  known : ∀ name ∈ Entries.names members, name ∈ Entries.names properties

/-- A closed object schema accepts the objects whose members are as it says. -/
theorem accepts_closed_iff {schema properties : List (String × Json)} {names : List String}
    (h : Closed schema properties names) :
    Accepts (.obj schema) v ↔ ∃ members, v = .obj members ∧ Fits properties names members := by
  have hproperties : (Keyword.get? "properties" (keywordsOf schema)).map (·.value)
      = some (.obj properties) := by rw [get?_keywordsOf, h.properties]
  have hpatterns : (Keyword.get? "patternProperties" (keywordsOf schema)).map (·.value) = none := by
    rw [get?_keywordsOf, h.patterns]
  constructor
  · intro haccepts
    -- each keyword of the schema says one part of what fits, and there are no others
    have htype := hasType_of_accepts (by decide) ((h.mem_iff _).2 (Or.inl rfl)) haccepts
    rw [accepts_obj_iff] at haccepts
    cases v with
    | obj members =>
      refine ⟨members, rfl, ?_, ?_, ?_⟩
      · exact properties_nil_iff.1 (haccepts _ ((h.mem_iff _).2 (Or.inr (Or.inl rfl))))
      · intro name hname
        have hmem := (h.mem_iff _).2 (Or.inr (Or.inr (Or.inl ⟨List.ne_nil_of_mem hname, rfl⟩)))
        exact required_nil_iff.1 (haccepts _ hmem) name hname
      · have hmem := (h.mem_iff _).2 (Or.inr (Or.inr (Or.inr rfl)))
        exact (additional_nil_iff hproperties hpatterns).1 (haccepts _ hmem)
    | _ => exact absurd htype (by simp [hasType])
  · rintro ⟨members, rfl, hfits⟩
    rw [accepts_obj_iff]
    intro m hm
    rcases (h.mem_iff m).1 hm with rfl | rfl | ⟨-, rfl⟩ | rfl
    · exact (type_nil_iff (by decide)).2 rfl
    · exact properties_nil_iff.2 hfits.accepted
    · exact required_nil_iff.2 hfits.required
    · exact (additional_nil_iff hproperties hpatterns).2 hfits.known

/-- An object schema is that of a closed object. -/
lemma closed_objectSchema {properties schema : List (String × Json)} {required : List String}
    (h : objectSchema properties required = .obj schema) :
    Closed schema properties ((Entries.names properties).filter (required.contains ·)) := by
  unfold objectSchema typed at h
  rw [← Json.obj.inj h]
  cases (Entries.names properties).filter (required.contains ·) with
  | nil => exact ⟨fun m => by simp, rfl, rfl⟩
  | cons name rest => exact ⟨fun m => by simp, rfl, rfl⟩

end Document
end SlideContract
