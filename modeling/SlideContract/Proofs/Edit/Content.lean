import SlideContract.Proofs.Document.Accepted
import SlideContract.Proofs.Edit.Response

/-!
# Content under edited schemas

What is removed from a schema has to be removed from the content as well: a usable schema without
some fields accepts what the schema accepts once the fields are gone from every object in it, and
nothing in which any object has them. The response schema of a document with an object at its root
asks for one more member, the note.

* `Json.without`, `Json.Lacks`: a value without some fields, and a value that has none of them;
* `keeps_of_prune`: the content of a schema without some fields;
* `exists_response_object`, `exists_response_typed`: what a response schema is;
* `note_of_fits`, `fits_erase`, `fits_set`: objects with a note, and the same objects without it.
-/

namespace SlideContract

namespace Json

mutual

/-- The value without the fields, at every depth. -/
def without (fields : List String) : Json → Json
  | .arr items => .arr (withoutItems fields items)
  | .obj members => .obj (withoutMembers fields members)
  | value => value

/-- The items, each without the fields. -/
def withoutItems (fields : List String) : List Json → List Json
  | [] => []
  | item :: rest => without fields item :: withoutItems fields rest

/-- The members that are none of the fields, each without these. -/
def withoutMembers (fields : List String) : List (String × Json) → List (String × Json)
  | [] => []
  | (name, value) :: rest =>
    if fields.contains name then withoutMembers fields rest
    else (name, without fields value) :: withoutMembers fields rest

end

/-- What is found in a value: the value itself, and what is found in its items and members. -/
inductive Within : Json → Json → Prop where
  | self (value : Json) : Within value value
  | item {part item : Json} {items : List Json} (hitem : item ∈ items) (h : Within part item) :
    Within part (.arr items)
  | member {part value : Json} {name : String} {members : List (String × Json)}
    (hvalue : Entries.get? name members = some value) (h : Within part value) :
    Within part (.obj members)

/-- No object in the value has any of the fields. -/
def Lacks (fields : List String) (value : Json) : Prop :=
  ∀ members, Within (.obj members) value → ∀ field ∈ fields, Entries.has field members = false

variable {fields : List String}

lemma withoutItems_eq (items : List Json) :
    withoutItems fields items = items.map (without fields) := by
  induction items with
  | nil =>
    unfold withoutItems
    rfl
  | cons item rest ih =>
    unfold withoutItems
    rw [ih, List.map_cons]

/-- What is left of the members is looked up under the names that are left. -/
lemma get?_withoutMembers (name : String) (members : List (String × Json)) :
    Entries.get? name (withoutMembers fields members)
      = if name ∈ fields then none else (Entries.get? name members).map (without fields) := by
  induction members with
  | nil =>
    unfold withoutMembers
    simp [Entries.get?]
  | cons member rest ih =>
    obtain ⟨other, value⟩ := member
    unfold withoutMembers
    -- a member that is removed is not the one looked up, unless that is removed as well
    by_cases hother : other ∈ fields
    · rw [if_pos (List.contains_iff_mem.2 hother), ih]
      by_cases hname : name ∈ fields
      · rw [if_pos hname, if_pos hname]
      · have hne : other ≠ name := fun heq => hname (heq ▸ hother)
        rw [if_neg hname, if_neg hname, Entries.get?, if_neg hne]
    · rw [if_neg fun hcontains => hother (List.contains_iff_mem.1 hcontains), Entries.get?,
        Entries.get?]
      by_cases hne : other = name
      · subst hne
        rw [if_pos rfl, if_pos rfl, if_neg hother, Option.map_some]
      · rw [if_neg hne, if_neg hne, ih]

lemma has_withoutMembers {name : String} {members : List (String × Json)} :
    Entries.has name (withoutMembers fields members) = true ↔
      name ∉ fields ∧ Entries.has name members = true := by
  unfold Entries.has
  rw [get?_withoutMembers]
  by_cases hname : name ∈ fields <;> simp [hname]

lemma lacks_arr {items : List Json} (h : ∀ item ∈ items, item.Lacks fields) :
    (Json.arr items).Lacks fields := by
  intro members hwithin
  cases hwithin with
  | item hitem hwithin => exact h _ hitem members hwithin

lemma lacks_obj {members : List (String × Json)}
    (hself : ∀ field ∈ fields, Entries.has field members = false)
    (h : ∀ name value, Entries.get? name members = some value → value.Lacks fields) :
    (Json.obj members).Lacks fields := by
  intro inner hwithin
  cases hwithin with
  | self => exact hself
  | member hvalue hwithin => exact h _ _ hvalue inner hwithin

end Json

namespace Edit
open Schema Document

variable {fields : List String} {properties kept : List (String × Json)}

/-- Content of the schema is content of the pruned schema once the fields are gone, and content of
the pruned schema lacks the fields. -/
structure Keeps (fields : List String) (schema pruned : Json) : Prop where
  without : ∀ v, Accepts schema v → Accepts pruned (v.without fields)
  lacks : ∀ v, Accepts pruned v → v.Lacks fields

lemma keeps_leaf {type : String} {members : List (String × Json)}
    (htype : type ∈ ["string", "number", "boolean"]) :
    Keeps fields (typed type members) (typed type members) := by
  -- what a leaf accepts has no members at any depth
  have hscalar : ∀ v, Accepts (typed type members) v →
      v.without fields = v ∧ v.Lacks fields := by
    intro v h
    have hhas : hasType type v = true := by
      refine hasType_of_accepts ?_ List.mem_cons_self h
      simp only [List.mem_cons, List.not_mem_nil, or_false] at htype ⊢
      tauto
    simp only [List.mem_cons, List.not_mem_nil, or_false] at htype
    cases v with
    | arr items => rcases htype with rfl | rfl | rfl <;> exact absurd hhas (by simp [hasType])
    | obj members => rcases htype with rfl | rfl | rfl <;> exact absurd hhas (by simp [hasType])
    | _ =>
      refine ⟨by unfold Json.without; rfl, fun members hwithin => ?_⟩
      cases hwithin
  constructor
  · intro v h
    rw [(hscalar v h).1]
    exact h
  · intro v h
    exact (hscalar v h).2

lemma keeps_array {inner inner' annotations : List (String × Json)}
    (h : ∀ m ∈ annotations, Annotation m) (hitems : Keeps fields (.obj inner) (.obj inner')) :
    Keeps fields (typed "array" (("items", .obj inner) :: annotations))
      (typed "array" (("items", .obj inner') :: annotations)) := by
  have hlist : ∀ {schema : Json} {v : Json},
      Accepts (typed "array" (("items", schema) :: annotations)) v → ∃ items, v = .arr items := by
    intro schema v haccepts
    have hhas := hasType_of_accepts (by decide) List.mem_cons_self haccepts
    cases v with
    | arr items => exact ⟨items, rfl⟩
    | _ => exact absurd hhas (by simp [hasType])
  constructor
  · intro v haccepts
    obtain ⟨items, rfl⟩ := hlist haccepts
    unfold Json.without
    rw [Json.withoutItems_eq]
    refine accepts_array h (List.length_map _) haccepts fun item hitem => ?_
    obtain ⟨whole, hwhole, rfl⟩ := List.mem_map.1 hitem
    exact hitems.without whole (accepts_item haccepts hwhole)
  · intro v haccepts
    obtain ⟨items, rfl⟩ := hlist haccepts
    exact Json.lacks_arr fun item hitem => hitems.lacks item (accepts_item haccepts hitem)

/-- What fits the properties fits those that are kept, once the fields are gone. -/
lemma fits_without {required : List String} {members : List (String × Json)}
    (hsurvive : Survive fields (Keeps fields) properties kept)
    (h : Fits properties ((Entries.names properties).filter (required.contains ·)) members) :
    Fits kept ((Entries.names kept).filter (required.contains ·))
      (Json.withoutMembers fields members) := by
  have hnames := hsurvive.names
  constructor
  · intro k hk value hvalue
    obtain ⟨hfield, schema, hmem, hkeeps⟩ := hsurvive.of_mem hk
    rw [Json.get?_withoutMembers, if_neg hfield] at hvalue
    obtain ⟨whole, hwhole, rfl⟩ := Option.map_eq_some_iff.1 hvalue
    exact hkeeps.without whole (h.accepted _ hmem whole hwhole)
  · intro name hname
    rw [hnames, List.mem_filter, List.mem_filter] at hname
    obtain ⟨⟨hmem, hfield⟩, hrequired⟩ := hname
    refine Json.has_withoutMembers.2 ⟨by simpa using hfield, ?_⟩
    exact h.required name (List.mem_filter.2 ⟨hmem, hrequired⟩)
  · intro name hname
    obtain ⟨hfield, hhas⟩ := Json.has_withoutMembers.1 ((Entries.has_iff_mem_names _ _).2 hname)
    rw [hnames, List.mem_filter]
    exact ⟨h.known name ((Entries.has_iff_mem_names _ _).1 hhas), by simpa using hfield⟩

/-- What fits the properties that are kept lacks the fields. -/
lemma lacks_of_fits {names : List String} (hsurvive : Survive fields (Keeps fields) properties kept)
    {members : List (String × Json)} (h : Fits kept names members) :
    (Json.obj members).Lacks fields := by
  have hknown : ∀ name, Entries.has name members = true →
      ∃ schema, (name, schema) ∈ kept := by
    intro name hhas
    have hmem := h.known name ((Entries.has_iff_mem_names _ _).1 hhas)
    obtain ⟨⟨other, schema⟩, hk, rfl⟩ := List.mem_map.1 hmem
    exact ⟨schema, hk⟩
  refine Json.lacks_obj (fun field hfield => ?_) fun name value hvalue => ?_
  · rw [Bool.eq_false_iff]
    intro hhas
    obtain ⟨schema, hk⟩ := hknown field hhas
    exact (hsurvive.of_mem hk).1 hfield
  · have hhas : Entries.has name members = true := by
      unfold Entries.has
      rw [hvalue, Option.isSome_some]
    obtain ⟨schema, hk⟩ := hknown name hhas
    obtain ⟨-, whole, -, hkeeps⟩ := hsurvive.of_mem hk
    exact hkeeps.lacks value (h.accepted _ hk value hvalue)

lemma keeps_object {required : List String}
    (hsurvive : Survive fields (Keeps fields) properties kept) :
    Keeps fields (objectSchema properties required) (objectSchema kept required) := by
  constructor
  · intro v haccepts
    obtain ⟨members, rfl, hfits⟩ := (accepts_closed_iff (closed_objectSchema rfl)).1 haccepts
    refine (accepts_closed_iff (closed_objectSchema rfl)).2 ⟨_, ?_, fits_without hsurvive hfits⟩
    unfold Json.without
    rfl
  · intro v haccepts
    obtain ⟨members, rfl, hfits⟩ := (accepts_closed_iff (closed_objectSchema rfl)).1 haccepts
    exact lacks_of_fits hsurvive hfits

/-- Removing fields from a usable schema keeps the content without the fields. -/
theorem keeps_of_prune {schema : Json} (h : Usable schema) (fields : List String) :
    ∃ pruned, prune fields schema = .ok pruned ∧ Keeps fields schema pruned :=
  prune_induction fields (fun htype _ => keeps_leaf htype) keeps_array
    (fun _ _ hsurvive => keeps_object hsurvive) h

/-! ## The note -/

lemma lt_int (m n : Int) : Number.lt (.int m) (.int n) = decide (m < n) := by
  have hcompare : compare (m * 1) (n * 1) = .lt ↔ m < n := by
    rw [Int.compare_eq_lt]
    omega
  by_cases h : m < n
  · rw [decide_eq_true h]
    simpa [Number.lt, Number.order?, Number.ratio?] using hcompare.2 h
  · rw [decide_eq_false h]
    have hnot := mt hcompare.1 h
    simpa [Number.lt, Number.order?, Number.ratio?] using hnot

lemma minLength_nil_iff {keywords : List Keyword} {bound : Number} {s : String} :
    Finds (part keywords [("minLength", .num bound)] (.str s)) [] ↔
      Number.lt (.int s.length) bound = false := by
  rw [single_nil_iff (by simp only [keywordsOf]; rfl)]
  exact violatedIf_nil_iff

lemma maxLength_nil_iff {keywords : List Keyword} {bound : Number} {s : String} :
    Finds (part keywords [("maxLength", .num bound)] (.str s)) [] ↔
      Number.lt bound (.int s.length) = false := by
  rw [single_nil_iff (by simp only [keywordsOf]; rfl)]
  exact violatedIf_nil_iff

/-- The schema of the note accepts the texts of a right length. -/
lemma accepts_noteSchema_iff {v : Json} :
    Accepts noteSchema v ↔ ∃ note, v = .str note ∧ 100 ≤ note.length ∧ note.length ≤ 250 := by
  have hdescription : ∀ keywords : List Keyword,
      Finds (part keywords [("description", .str "Speaker note for the slide")] v) [] := by
    intro keywords
    rw [single_nil_iff (by simp only [keywordsOf]; rfl)]
    exact .nothing
  unfold noteSchema Json.int
  rw [accepts_obj_iff, List.forall_mem_cons, List.forall_mem_cons, List.forall_mem_cons,
    List.forall_mem_singleton, type_nil_iff (by decide), and_iff_left (hdescription _)]
  cases v with
  | str note =>
    rw [minLength_nil_iff, maxLength_nil_iff, lt_int, lt_int, decide_eq_false_iff_not,
      decide_eq_false_iff_not]
    constructor
    · rintro ⟨-, hlow, hhigh⟩
      exact ⟨note, rfl, by omega, by omega⟩
    · rintro ⟨note', heq, hlow, hhigh⟩
      rw [Json.str.inj heq]
      exact ⟨rfl, by omega, by omega⟩
  | _ => simp [hasType]

/-- A property that is added to an object schema is one of its properties and required. -/
lemma closed_addProperty {members : List (String × Json)} {required : List String}
    (hmembers : objectSchema properties required = .obj members)
    (houtline : Outline members properties
      ((Entries.names properties).filter (required.contains ·)))
    (name : String) (schema : Json) :
    Closed (addProperty members name schema true) (Entries.set name schema properties)
      (withName name ((Entries.names properties).filter (required.contains ·))) := by
  rw [addProperty_eq houtline]
  have hne : withName name ((Entries.names properties).filter (required.contains ·)) ≠ [] :=
    List.ne_nil_of_mem (mem_withName.2 (Or.inl rfl))
  unfold objectSchema typed at hmembers
  rw [← Json.obj.inj hmembers]
  generalize withName name ((Entries.names properties).filter (required.contains ·)) = names
    at hne ⊢
  cases (Entries.names properties).filter (required.contains ·) with
  | nil => exact ⟨fun m => by simp [Entries.set, hne]; tauto, rfl, rfl⟩
  | cons first rest => exact ⟨fun m => by simp [Entries.set, hne], rfl, rfl⟩

variable {names : List String} {members : List (String × Json)}

/-- An object that fits properties with the note among them, required, has a note. -/
lemma note_of_fits
    (h : Fits (Entries.set noteField noteSchema kept) (withName noteField names) members) :
    ∃ note, Entries.get? noteField members = some (.str note) ∧ 100 ≤ note.length ∧
      note.length ≤ 250 := by
  have hhas := h.required noteField (mem_withName.2 (Or.inl rfl))
  obtain ⟨value, hvalue⟩ := Option.isSome_iff_exists.1 hhas
  have hmem := Entries.mem_of_get? (Entries.get?_set_self noteField noteSchema kept)
  obtain ⟨note, rfl, hbounds⟩ := accepts_noteSchema_iff.1 (h.accepted _ hmem value hvalue)
  exact ⟨note, hvalue, hbounds⟩

section NoNote

variable (hkept : noteField ∉ Entries.names kept) (hnames : noteField ∉ names)

include hkept hnames

/-- Without its note, it fits the other properties. -/
lemma fits_erase
    (h : Fits (Entries.set noteField noteSchema kept) (withName noteField names) members) :
    Fits kept names (Entries.erase noteField members) := by
  constructor
  · intro k hk value hvalue
    -- the note is none of the other properties, so removing it leaves their members
    have hne : k.1 ≠ noteField := fun heq => hkept (heq ▸ List.mem_map_of_mem hk)
    rw [Entries.get?_erase_of_ne hne] at hvalue
    refine h.accepted k ?_ value hvalue
    rw [Entries.set_of_not_mem hkept]
    exact List.mem_append_left _ hk
  · intro name hname
    have hne : name ≠ noteField := fun heq => hnames (heq ▸ hname)
    unfold Entries.has
    rw [Entries.get?_erase_of_ne hne]
    exact h.required name (mem_withName.2 (Or.inr hname))
  · intro name hname
    obtain ⟨member, hmember, rfl⟩ := List.mem_map.1 hname
    obtain ⟨hmem, hne⟩ := List.mem_filter.1 hmember
    rcases Entries.mem_names_set.1 (h.known _ (List.mem_map_of_mem hmem)) with heq | hother
    · exact absurd heq (by simpa using hne)
    · exact hother

omit hnames in
/-- With a note, an object that fits the other properties fits all of them. -/
lemma fits_set (h : Fits kept names members) {note : String} (hmin : 100 ≤ note.length)
    (hmax : note.length ≤ 250) :
    Fits (Entries.set noteField noteSchema kept) (withName noteField names)
      (Entries.set noteField (.str note) members) := by
  constructor
  · intro k hk value hvalue
    rw [Entries.set_of_not_mem hkept] at hk
    -- the note's schema stands behind the other properties
    rcases List.mem_append.1 hk with hk | hk
    · have hne : k.1 ≠ noteField := fun heq => hkept (heq ▸ List.mem_map_of_mem hk)
      rw [Entries.get?_set_of_ne hne] at hvalue
      exact h.accepted k hk value hvalue
    · rw [List.mem_singleton.1 hk] at hvalue ⊢
      rw [Entries.get?_set_self] at hvalue
      exact accepts_noteSchema_iff.2 ⟨note, (Option.some.inj hvalue).symm, hmin, hmax⟩
  · intro name hname
    rw [Entries.has_iff_mem_names, Entries.mem_names_set]
    refine (mem_withName.1 hname).imp_right fun hother => ?_
    exact (Entries.has_iff_mem_names _ _).1 (h.required name hother)
  · intro name hname
    rw [Entries.mem_names_set] at hname ⊢
    exact hname.imp_right (h.known name)

end NoNote

/-- An object without its note lacks fields that do not include the note only if it does with it. -/
lemma lacks_of_erase {note : String} (hnote : Entries.get? noteField members = some (.str note))
    (hfields : noteField ∉ fields) (h : (Json.obj (Entries.erase noteField members)).Lacks fields) :
    (Json.obj members).Lacks fields := by
  refine Json.lacks_obj (fun field hfield => ?_) fun name value hvalue => ?_
  · have hne : field ≠ noteField := fun heq => hfields (heq ▸ hfield)
    have hlacks := h _ (.self _) field hfield
    unfold Entries.has at hlacks ⊢
    rwa [Entries.get?_erase_of_ne hne] at hlacks
  · by_cases hname : name = noteField
    · -- the note is a text, in which there is no object
      rw [hname, hnote] at hvalue
      rw [← Option.some.inj hvalue]
      intro inner hwithin
      cases hwithin
    · intro inner hwithin
      rw [← Entries.get?_erase_of_ne hname] at hvalue
      exact h inner (.member hvalue hwithin)

/-! ## Response schemas -/

/-- The response schema of an object document: the properties that are kept and the note, which is
required. -/
lemma exists_response_object (required : List String) (nodup : (Entries.names properties).Nodup)
    (h : ∀ p ∈ properties, Usable p.2) :
    ∃ kept answer, Survive mediaFields (Keeps mediaFields) properties kept ∧
      prune mediaFields (objectSchema properties required) = .ok (objectSchema kept required) ∧
      response (objectSchema properties required) = .ok (.obj answer) ∧
      Closed answer (Entries.set noteField noteSchema kept)
        (withName noteField ((Entries.names kept).filter (required.contains ·))) := by
  -- content and usability are preserved by one and the same schema
  have hpruned : ∀ p ∈ properties, ∃ pruned, prune mediaFields p.2 = .ok pruned ∧
      (Keeps mediaFields p.2 pruned ∧ Usable pruned) := by
    intro p hp
    obtain ⟨pruned, hpruned, hkeeps⟩ := keeps_of_prune (h p hp) mediaFields
    obtain ⟨other, hother, husable⟩ := usable_of_prune (h p hp) mediaFields
    rw [Except.ok.inj (hother.symm.trans hpruned)] at husable
    exact ⟨pruned, hpruned, hkeeps, husable⟩
  obtain ⟨kept, hkept, hsurvive⟩ :=
    exists_pruneProperties
      (R := fun schema pruned => Keeps mediaFields schema pruned ∧ Usable pruned) hpruned
  have husable : ∀ k ∈ kept, Usable k.2 := by
    intro k hk
    obtain ⟨-, _, -, -, husable⟩ := hsurvive.of_mem hk
    exact husable
  have hnodup : (Entries.names kept).Nodup := by
    rw [hsurvive.names]
    exact nodup.filter _
  have hobject : prune mediaFields (objectSchema properties required)
      = .ok (objectSchema kept required) := prune_objectSchema hkept hsurvive.names
  obtain ⟨left, hleft⟩ : ∃ left, objectSchema kept required = .obj left := ⟨_, rfl⟩
  have houtline := outline_objectSchema hleft hnodup husable
  have hleftUsable : Usable (.obj left) := hleft ▸ .object required hnodup husable
  refine ⟨kept, addProperty left noteField noteSchema true, hsurvive.imp fun _ _ hboth => hboth.1,
    hobject, ?_, closed_addProperty hleft houtline noteField noteSchema⟩
  exact response_eq (hleft ▸ hobject) hleftUsable

/-- The response schema of a document keeps its type. -/
lemma exists_response_typed {type : String} (h : Usable (typed type members)) :
    ∃ answer, response (typed type members) = .ok (.obj answer) ∧ ("type", .str type) ∈ answer := by
  obtain ⟨pruned, hpruned, husable⟩ := usable_of_prune h mediaFields
  obtain ⟨left, rfl, hleft⟩ := exists_obj_of_prune hpruned
  obtain ⟨_, _, houtline⟩ := outline_of_usable husable
  refine ⟨_, response_eq hpruned husable, Entries.mem_of_get? ?_⟩
  rw [get?_addProperty houtline noteField noteSchema (by decide) (by decide)]
  rw [pruneMembers_cons] at hleft
  obtain ⟨first, hfirst, hleft⟩ := Except.bind_eq_ok.1 hleft
  obtain ⟨rest, -, hleft⟩ := Except.bind_eq_ok.1 hleft
  rw [← Except.ok.inj hleft, ← Except.ok.inj hfirst]
  rfl

end Edit
end SlideContract
