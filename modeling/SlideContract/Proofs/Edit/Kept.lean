import SlideContract.Edit.Close
import SlideContract.Edit.Prune
import SlideContract.Proofs.Document.Usable
import SlideContract.Proofs.Run

/-!
# Edits of usable schemas

Usable schemas stay usable when fields are removed at every depth, and closing the objects of a
usable schema changes nothing.

* `prune_induction`: removing fields succeeds, and follows the kinds of schemas;
* `usable_of_prune`: it leaves a usable schema;
* `close_of_usable`: the objects of a usable schema are closed already.
-/

namespace SlideContract.Edit
open Document

/-! ## Removing fields -/

/-- What is left of a member of a schema. -/
def pruneMember (fields : List String) (name : String) :
    Json → Except Fault (List (String × Json))
  | .obj members =>
    if name = "properties" then do
      return [(name, .obj (← pruneProperties fields members))]
    else if name = "required" then .ok [(name, .obj members)]
    else do return [(name, .obj (← pruneMembers fields members))]
  | .arr items =>
    if name = "required" then do
      match ← keepRequired fields items with
      | [] => return []
      | names => return [(name, .arr names)]
    else do return [(name, .arr (← pruneItems fields items))]
  | value => .ok [(name, value)]

/-- A member is pruned apart from those behind it. -/
lemma pruneMembers_cons (fields : List String) (name : String) (value : Json)
    (rest : List (String × Json)) :
    pruneMembers fields ((name, value) :: rest) = (do
      return (← pruneMember fields name value) ++ (← pruneMembers fields rest)) := by
  conv_lhs => unfold pruneMembers
  unfold pruneMember
  cases value with
  | obj members =>
    simp only
    split
    · simp only [bind_assoc, pure_bind]
    · split
      · rfl
      · simp only [bind_assoc, pure_bind]
  | arr items =>
    simp only
    split
    · rw [bind_assoc]
      congr 1
      funext names
      cases names <;> rfl
    · simp only [bind_assoc, pure_bind]
  | _ => rfl

lemma pruneItems_strings (fields values : List String) :
    pruneItems fields (values.map .str) = .ok (values.map .str) := by
  induction values with
  | nil =>
    unfold pruneItems
    rfl
  | cons value rest ih =>
    rw [List.map_cons]
    unfold pruneItems prune
    rw [ih]
    rfl

lemma pruneMember_annotation (fields : List String) {m : String × Json} (h : Annotation m) :
    pruneMember fields m.1 m.2 = .ok [m] := by
  cases h with
  | size hname hn => rfl
  | bound hname n => rfl
  | enum values =>
    show (do return [("enum", Json.arr (← pruneItems fields (values.map .str)))]) = _
    rw [pruneItems_strings]
    rfl
  | description text => rfl

/-- What annotates a type stays. -/
lemma pruneMembers_annotations (fields : List String) {members : List (String × Json)}
    (h : ∀ m ∈ members, Annotation m) : pruneMembers fields members = .ok members := by
  induction members with
  | nil =>
    unfold pruneMembers
    rfl
  | cons m rest ih =>
    rw [pruneMembers_cons, pruneMember_annotation fields (h m List.mem_cons_self),
      ih fun m' hm => h m' (List.mem_cons_of_mem _ hm)]
    rfl

/-- A schema is pruned member by member. -/
lemma exists_obj_of_prune {fields : List String} {members : List (String × Json)} {pruned : Json}
    (h : prune fields (.obj members) = .ok pruned) :
    ∃ left, pruned = .obj left ∧ pruneMembers fields members = .ok left := by
  unfold prune at h
  obtain ⟨left, hleft, h⟩ := Except.bind_eq_ok.1 h
  exact ⟨left, (Except.ok.inj h).symm, hleft⟩

/-- The schema of items is pruned as a whole. -/
lemma pruneMember_items {fields : List String} {inner : List (String × Json)} {pruned : Json}
    (h : prune fields (.obj inner) = .ok pruned) :
    pruneMember fields "items" (.obj inner) = .ok [("items", pruned)] := by
  obtain ⟨left, rfl, hleft⟩ := exists_obj_of_prune h
  show (do return [("items", Json.obj (← pruneMembers fields inner))]) = _
  rw [hleft]
  rfl

lemma keepRequired_strings (fields names : List String) :
    keepRequired fields (names.map .str)
      = .ok ((names.filter fun name => !fields.contains name).map .str) := by
  induction names with
  | nil => rfl
  | cons name rest ih =>
    rw [List.map_cons, keepRequired, ih, List.filter_cons]
    show Except.ok _ = _
    cases fields.contains name <;> rfl

/-- The member that lists required names, left out if there are none. -/
def requiredMember (names : List String) : List (String × Json) :=
  if names.isEmpty then [] else [("required", .arr (names.map .str))]

lemma pruneMembers_required (fields names : List String) (rest : List (String × Json)) :
    pruneMembers fields (requiredMember names ++ rest) = (do
      return requiredMember (names.filter fun name => !fields.contains name)
        ++ (← pruneMembers fields rest)) := by
  cases names with
  | nil =>
    show pruneMembers fields rest = _
    cases pruneMembers fields rest <;> rfl
  | cons name others =>
    show pruneMembers fields (("required", .arr ((name :: others).map .str)) :: rest) = _
    rw [pruneMembers_cons]
    show (do
      let left ← (do
        match ← keepRequired fields ((name :: others).map .str) with
        | [] => return []
        | names => return [("required", Json.arr names)])
      return left ++ (← pruneMembers fields rest)) = _
    rw [keepRequired_strings]
    cases (name :: others).filter (fun name => !fields.contains name) <;> rfl

/-- The properties of the second list are those of the first that are not removed, each related to
what it was. -/
inductive Survive (fields : List String) (R : Json → Json → Prop) :
    List (String × Json) → List (String × Json) → Prop where
  | nil : Survive fields R [] []
  | drop {p : String × Json} {rest kept : List (String × Json)} (hfield : p.1 ∈ fields)
    (h : Survive fields R rest kept) : Survive fields R (p :: rest) kept
  | keep {name : String} {schema pruned : Json} {rest kept : List (String × Json)}
    (hfield : name ∉ fields) (hR : R schema pruned) (h : Survive fields R rest kept) :
    Survive fields R ((name, schema) :: rest) ((name, pruned) :: kept)

variable {fields : List String} {R : Json → Json → Prop} {properties kept : List (String × Json)}

/-- The names that are kept are those that are not removed. -/
lemma Survive.names (h : Survive fields R properties kept) :
    Entries.names kept = (Entries.names properties).filter fun name => !fields.contains name := by
  induction h with
  | nil => rfl
  | drop hfield _ ih =>
    rw [ih, Entries.names_cons, List.filter_cons_of_neg]
    simpa using hfield
  | keep hfield _ _ ih =>
    rw [Entries.names_cons, ih, Entries.names_cons, List.filter_cons_of_pos]
    simpa using hfield

/-- What is kept was there, under a name that is not removed. -/
lemma Survive.of_mem (h : Survive fields R properties kept) {k : String × Json} (hk : k ∈ kept) :
    k.1 ∉ fields ∧ ∃ schema, (k.1, schema) ∈ properties ∧ R schema k.2 := by
  induction h with
  | nil => exact absurd hk List.not_mem_nil
  | drop _ _ ih =>
    obtain ⟨hname, schema, hmem, hschema⟩ := ih hk
    exact ⟨hname, schema, List.mem_cons_of_mem _ hmem, hschema⟩
  | keep hfield hR _ ih =>
    rcases List.mem_cons.1 hk with rfl | hk
    · exact ⟨hfield, _, List.mem_cons_self, hR⟩
    · obtain ⟨hname, schema, hmem, hschema⟩ := ih hk
      exact ⟨hname, schema, List.mem_cons_of_mem _ hmem, hschema⟩

lemma Survive.imp {R' : Json → Json → Prop} (h : Survive fields R properties kept)
    (hR : ∀ schema pruned, R schema pruned → R' schema pruned) :
    Survive fields R' properties kept := by
  induction h with
  | nil => exact .nil
  | drop hfield _ ih => exact .drop hfield ih
  | keep hfield hkept _ ih => exact .keep hfield (hR _ _ hkept) ih

/-- Properties that can be pruned one by one can be pruned together. -/
lemma exists_pruneProperties
    (h : ∀ p ∈ properties, ∃ pruned, prune fields p.2 = .ok pruned ∧ R p.2 pruned) :
    ∃ kept, pruneProperties fields properties = .ok kept ∧ Survive fields R properties kept := by
  induction properties with
  | nil =>
    refine ⟨[], ?_, .nil⟩
    unfold pruneProperties
    rfl
  | cons p rest ih =>
    obtain ⟨name, schema⟩ := p
    obtain ⟨pruned, hpruned, hR⟩ := h (name, schema) List.mem_cons_self
    obtain ⟨kept, hkept, hsurvive⟩ := ih fun q hq => h q (List.mem_cons_of_mem _ hq)
    unfold pruneProperties
    -- a property of a removed name is dropped with its schema; the others keep what is left of
    -- theirs
    by_cases hfield : name ∈ fields
    · rw [if_pos (List.contains_iff_mem.2 hfield)]
      exact ⟨kept, hkept, .drop hfield hsurvive⟩
    · rw [if_neg fun hcontains => hfield (List.contains_iff_mem.1 hcontains), hpruned, hkept]
      exact ⟨(name, pruned) :: kept, rfl, .keep hfield hR hsurvive⟩

/-- An object schema without some of its properties requires those that are left. -/
lemma prune_objectSchema {required : List String}
    (hkept : pruneProperties fields properties = .ok kept)
    (hnames : Entries.names kept
      = (Entries.names properties).filter (fun name => !fields.contains name)) :
    prune fields (objectSchema properties required) = .ok (objectSchema kept required) := by
  have hclosed : pruneMembers fields [("additionalProperties", .bool false)]
      = .ok [("additionalProperties", .bool false)] := by
    rw [pruneMembers_cons, pruneMembers]
    rfl
  -- the required names are those of properties that stay, in either order of the two filters
  have hrequired : (Entries.names kept).filter (required.contains ·)
      = ((Entries.names properties).filter (required.contains ·)).filter
          (fun name => !fields.contains name) := by
    rw [hnames, List.filter_filter, List.filter_filter]
    simp only [Bool.and_comm]
  have hproperties : pruneMember fields "properties" (.obj properties)
      = .ok [("properties", .obj kept)] := by
    show (do return [("properties", Json.obj (← pruneProperties fields properties))]) = _
    rw [hkept]
    rfl
  unfold objectSchema typed prune
  rw [hrequired, pruneMembers_cons, List.cons_append, pruneMembers_cons, hproperties]
  show Json.obj <$> (do
    return [("type", Json.str "object")] ++ (← (do
      return [("properties", Json.obj kept)] ++
        (← pruneMembers fields
          (requiredMember _ ++ [("additionalProperties", Json.bool false)]))))) = _
  rw [pruneMembers_required, hclosed]
  rfl

/-- Removing fields from a usable schema succeeds, and what relates each kind of schema to what is
left of it relates all of them to it. -/
theorem prune_induction (fields : List String) {R : Json → Json → Prop}
    (leaf : ∀ {type members}, type ∈ ["string", "number", "boolean"] →
      (∀ m ∈ members, Annotation m) → R (typed type members) (typed type members))
    (array : ∀ {inner left annotations}, (∀ m ∈ annotations, Annotation m) →
      R (.obj inner) (.obj left) →
      R (typed "array" (("items", .obj inner) :: annotations))
        (typed "array" (("items", .obj left) :: annotations)))
    (object : ∀ {properties kept} (required), (Entries.names properties).Nodup →
      Survive fields R properties kept →
      R (objectSchema properties required) (objectSchema kept required))
    {schema : Json} (h : Usable schema) :
    ∃ pruned, prune fields schema = .ok pruned ∧ R schema pruned := by
  -- `type`, the bounds and the values are kept as they are, so only what `properties` and `items`
  -- hold changes
  induction h with
  | leaf htype h =>
    refine ⟨_, ?_, leaf htype h⟩
    unfold typed prune
    rw [pruneMembers_cons, pruneMembers_annotations fields h]
    rfl
  | array hitems h ih =>
    obtain ⟨pruned, hpruned, hR⟩ := ih
    obtain ⟨inner, rfl⟩ := hitems.exists_obj
    obtain ⟨left, rfl, -⟩ := exists_obj_of_prune hpruned
    refine ⟨_, ?_, array h hR⟩
    unfold typed prune
    rw [pruneMembers_cons, pruneMembers_cons, pruneMember_items hpruned,
      pruneMembers_annotations fields h]
    rfl
  | object required nodup h ih =>
    obtain ⟨kept, hkept, hsurvive⟩ := exists_pruneProperties ih
    exact ⟨_, prune_objectSchema hkept hsurvive.names, object required nodup hsurvive⟩

/-- Removing fields from a usable schema leaves a usable schema. -/
theorem usable_of_prune {schema : Json} (h : Usable schema) (fields : List String) :
    ∃ pruned, prune fields schema = .ok pruned ∧ Usable pruned := by
  refine prune_induction fields (R := fun _ pruned => Usable pruned) ?_ ?_ ?_ h
  · exact fun htype hmembers => .leaf htype hmembers
  · exact fun hannotations husable => .array husable hannotations
  · intro properties kept required nodup hsurvive
    refine .object required ?_ fun k hk => ?_
    · rw [hsurvive.names]
      exact nodup.filter _
    · obtain ⟨-, _, -, husable⟩ := hsurvive.of_mem hk
      exact husable

/-! ## Closing objects -/

section Closing

variable {closed : Json} {items : List Json} {named members : List (String × Json)}

/-- The value of a member with the schemas that it leads to closed. -/
def closeMember (name : String) (value : Json) : Except Fault Json :=
  match followOf name, value with
  | .properties, .obj named => .obj <$> closeNamed named
  | .properties, value => if value.isFalsy then .ok value else .error .oddProperties
  | .schemas, .arr items => .arr <$> closeItems items
  | .schemas, value => close value
  | .list, .arr items => .arr <$> closeItems items
  | .list, value => .ok value
  | .schema, value => close value
  | .ignore, value => .ok value

/-- A member is closed apart from those behind it. -/
lemma closeMembers_cons (name : String) (value : Json) (rest : List (String × Json)) :
    closeMembers ((name, value) :: rest) = (do
      let value ← closeMember name value
      return (name, value) :: (← closeMembers rest)) := by
  conv_lhs => unfold closeMembers
  unfold closeMember
  cases followOf name <;> cases value <;> simp only <;> first | rfl | (split <;> rfl)

lemma closeItems_eq_mapM : closeItems items = items.mapM close := by
  induction items with
  | nil =>
    unfold closeItems
    rfl
  | cons item rest ih =>
    unfold closeItems
    rw [List.mapM_cons, ih]

lemma closeNamed_eq_mapM :
    closeNamed named = named.mapM fun p => (close p.2).map fun schema => (p.1, schema) := by
  induction named with
  | nil =>
    unfold closeNamed
    rfl
  | cons p rest ih =>
    obtain ⟨name, schema⟩ := p
    unfold closeNamed
    rw [List.mapM_cons, ih]
    cases close schema <;> rfl

lemma closeMembers_eq_mapM :
    closeMembers members
      = members.mapM fun m => (closeMember m.1 m.2).map fun value => (m.1, value) := by
  induction members with
  | nil =>
    unfold closeMembers
    rfl
  | cons m rest ih =>
    obtain ⟨name, value⟩ := m
    rw [closeMembers_cons, List.mapM_cons, ih]
    cases closeMember name value <;> rfl

lemma map_eq_self_iff {name : String} {value : Json} {result : Except Fault Json} :
    (result.map fun value => (name, value)) = .ok (name, value) ↔ result = .ok value := by
  rw [Except.map_eq_ok]
  constructor
  · rintro ⟨other, hother, heq⟩
    rw [hother, (Prod.mk.inj heq).2]
  · exact fun h => ⟨value, h, rfl⟩

lemma closeItems_eq_self_iff :
    closeItems items = .ok items ↔ ∀ item ∈ items, close item = .ok item := by
  rw [closeItems_eq_mapM, Except.mapM_eq_self_iff]

lemma closeNamed_eq_self_iff :
    closeNamed named = .ok named ↔ ∀ p ∈ named, close p.2 = .ok p.2 := by
  rw [closeNamed_eq_mapM, Except.mapM_eq_self_iff]
  exact forall₂_congr fun _ _ => map_eq_self_iff

lemma closeMembers_eq_self_iff :
    closeMembers members = .ok members ↔ ∀ m ∈ members, closeMember m.1 m.2 = .ok m.2 := by
  rw [closeMembers_eq_mapM, Except.mapM_eq_self_iff]
  exact forall₂_congr fun _ _ => map_eq_self_iff

lemma closeMember_annotation {m : String × Json} (h : Annotation m) :
    closeMember m.1 m.2 = .ok m.2 := by
  cases h with
  | size hname hn =>
    simp only [List.mem_cons, List.not_mem_nil, or_false] at hname
    rcases hname with rfl | rfl | rfl | rfl <;> rfl
  | bound hname n =>
    simp only [List.mem_cons, List.not_mem_nil, or_false] at hname
    rcases hname with rfl | rfl <;> rfl
  | enum values => rfl
  | description text => rfl

lemma closeMember_properties {properties : List (String × Json)}
    (h : ∀ p ∈ properties, close p.2 = .ok p.2) :
    closeMember "properties" (.obj properties) = .ok (.obj properties) := by
  show Json.obj <$> closeNamed properties = _
  rw [closeNamed_eq_self_iff.2 h]
  rfl

lemma closeMember_closed :
    closeMember "additionalProperties" (.bool false) = .ok (.bool false) := by
  show close (.bool false) = _
  unfold close
  rfl

/-- The schema says something about additional properties, if it is one of objects. -/
def Settled (node : List (String × Json)) : Prop :=
  isObjectSchema node = true → Entries.has "additionalProperties" node = true

/-- The member that closes an object. -/
def addition : String × Json := ("additionalProperties", .bool false)

lemma closeObject_of_settled (h : Settled members) : closeObject members = members := by
  unfold closeObject
  cases hobject : isObjectSchema members with
  | false => rfl
  | true =>
    rw [h hobject]
    rfl

lemma closeObject_of_open (h : ¬ Settled members) :
    closeObject members = members ++ [addition] := by
  unfold Settled at h
  rw [Classical.not_imp, Bool.not_eq_true] at h
  unfold closeObject
  rw [h.1, h.2]
  rfl

/-- A schema is closed member by member, and then as a whole. -/
lemma close_obj_eq_ok_iff :
    close (.obj members) = .ok closed ↔
      ∃ kept, closeMembers members = .ok kept ∧ closed = .obj (closeObject kept) := by
  unfold close
  rw [Except.bind_eq_ok]
  exact exists_congr fun kept => and_congr_right fun _ =>
    ⟨fun h => (Except.ok.inj h).symm, fun h => congrArg _ h.symm⟩

/-- A schema stays as it is exactly if its members do and it is no open object. -/
lemma close_obj_eq_self_iff :
    close (.obj members) = .ok (.obj members) ↔
      (∀ m ∈ members, closeMember m.1 m.2 = .ok m.2) ∧ Settled members := by
  rw [close_obj_eq_ok_iff]
  constructor
  · rintro ⟨others, hothers, heq⟩
    have heq : members = closeObject others := Json.obj.inj heq
    have hlength : others.length = members.length := by
      rw [closeMembers_eq_mapM] at hothers
      exact (Except.mapM_eq_ok_iff.1 hothers).length_eq.symm
    by_cases hsettled : Settled others
    · rw [closeObject_of_settled hsettled] at heq
      subst heq
      exact ⟨closeMembers_eq_self_iff.1 hothers, hsettled⟩
    · -- an open object would be longer when it is closed
      rw [heq, closeObject_of_open hsettled, List.length_append, List.length_singleton] at hlength
      omega
  · rintro ⟨hmembers, hsettled⟩
    refine ⟨members, closeMembers_eq_self_iff.2 hmembers, ?_⟩
    rw [closeObject_of_settled hsettled]

end Closing

/-- The members of a usable schema lead to nothing that has to be closed. -/
lemma closed_of_usable {schema : Json} (h : Usable schema) :
    ∃ members, schema = .obj members ∧ (∀ m ∈ members, closeMember m.1 m.2 = .ok m.2) ∧
      (isObjectSchema members = true → Entries.has "additionalProperties" members = true) := by
  -- only `properties` and `items` hold schemas, and those are closed by the induction's
  -- hypothesis
  induction h with
  | leaf htype h =>
    refine ⟨_, rfl, ?_, ?_⟩
    · intro m hm
      rcases List.mem_cons.1 hm with rfl | hm
      · rfl
      · exact closeMember_annotation (h m hm)
    · intro hobject
      rw [eq_of_beq (show (_ == "object") = true from hobject)] at htype
      exact absurd htype (by decide)
  | array hitems h ih =>
    obtain ⟨inner, rfl, hinner, hclosed⟩ := ih
    refine ⟨_, rfl, ?_, ?_⟩
    · intro m hm
      rcases List.mem_cons.1 hm with rfl | hm
      · rfl
      rcases List.mem_cons.1 hm with rfl | hm
      · exact close_obj_eq_self_iff.2 ⟨hinner, hclosed⟩
      · exact closeMember_annotation (h m hm)
    · intro hobject
      exact absurd (show ("array" == "object") = true from hobject) (by decide)
  | object required nodup h ih =>
    refine ⟨_, rfl, ?_, ?_⟩
    · intro m hm
      simp only [List.cons_append, List.mem_cons, List.mem_append, List.not_mem_nil,
        or_false] at hm
      rcases hm with rfl | rfl | hm | rfl
      · rfl
      · apply closeMember_properties
        intro p hp
        obtain ⟨inner, heq, hinner, hclosed⟩ := ih p hp
        rw [heq]
        exact close_obj_eq_self_iff.2 ⟨hinner, hclosed⟩
      · -- `required` is there only when a name is required, and holds no schema
        split at hm
        · simp at hm
        · rw [List.mem_singleton.1 hm]
          rfl
      · exact closeMember_closed
    · intro _
      unfold Entries.has
      rw [(get?_objectSchema rfl).2.2.1]
      rfl

/-- Closing the objects of a usable schema changes nothing. -/
theorem close_of_usable {schema : Json} (h : Usable schema) : close schema = .ok schema := by
  obtain ⟨members, rfl, hmembers, hclosed⟩ := closed_of_usable h
  exact close_obj_eq_self_iff.2 ⟨hmembers, hclosed⟩

end SlideContract.Edit
