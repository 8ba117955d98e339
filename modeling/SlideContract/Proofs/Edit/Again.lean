import SlideContract.Proofs.Edit.Addition
import SlideContract.Proofs.Edit.Removal
import SlideContract.Proofs.Edit.Response

/-!
# Response schemas of response schemas

Each step on the way to a response schema leaves alone what the others have done. Removing fields
from a document without these changes nothing, also when a property of another name has been added
and the objects have been closed; adding a property that is there as it should be changes nothing
either. So the response schema of a response schema is this schema.

* `pruneMembers_eq_self_iff`: what removing fields leaves as it is;
* `prune_close`: it leaves closed documents as they are;
* `addProperty_eq_self`: what adding a property leaves as it is;
* `response_response`: a response schema is its own response schema.
-/

namespace SlideContract.Edit

variable {fields : List String} {name : String} {value left schema document closed answer : Json}
  {members properties kept : List (String × Json)} {items names : List Json}

/-! ## Removing nothing -/

lemma pruneItems_eq_self_iff :
    pruneItems fields items = .ok items ↔ ∀ item ∈ items, prune fields item = .ok item := by
  rw [pruneItems_eq_mapM, Except.mapM_eq_self_iff]

lemma pruneProperties_eq_self_iff :
    pruneProperties fields properties = .ok properties ↔
      ∀ p ∈ properties, p.1 ∉ fields ∧ prune fields p.2 = .ok p.2 := by
  induction properties with
  | nil =>
    rw [pruneProperties]
    exact iff_of_true rfl fun _ h => absurd h List.not_mem_nil
  | cons property rest ih =>
    obtain ⟨name, value⟩ := property
    rw [List.forall_mem_cons, ← ih]
    constructor
    · intro h
      have hname := ((survive_of_pruneProperties h).of_mem List.mem_cons_self).1
      rw [pruneProperties, if_neg fun hcontains => hname (List.contains_iff_mem.1 hcontains)] at h
      obtain ⟨left, hleft, h⟩ := Except.bind_eq_ok.1 h
      obtain ⟨kept, hkept, h⟩ := Except.bind_eq_ok.1 h
      obtain ⟨hfirst, rfl⟩ := List.cons.inj (Except.ok.inj h)
      rw [(Prod.mk.inj hfirst).2] at hleft
      exact ⟨⟨hname, hleft⟩, hkept⟩
    · rintro ⟨⟨hname, hvalue⟩, hrest⟩
      rw [pruneProperties, if_neg fun hcontains => hname (List.contains_iff_mem.1 hcontains),
        hvalue, hrest]
      rfl

/-- A member leaves one member of its name, or none. -/
lemma pruneMember_cases (h : pruneMember fields name value = .ok kept) :
    kept = [] ∨ ∃ left, kept = [(name, left)] := by
  cases treatment name value with
  | properties properties =>
    rw [pruneMember_properties] at h
    obtain ⟨left, -, rfl⟩ := Except.map_eq_ok.1 h
    exact .inr ⟨_, rfl⟩
  | names items =>
    rw [pruneMember_names] at h
    obtain ⟨names, -, rfl⟩ := Except.map_eq_ok.1 h
    unfold namesMember
    split
    · exact .inl rfl
    · exact .inr ⟨_, rfl⟩
  | skip hskip =>
    rw [pruneMember_skip fields hskip] at h
    exact .inr ⟨_, (Except.ok.inj h).symm⟩
  | search hrequired hsearch =>
    rw [pruneMember_search fields hrequired hsearch] at h
    obtain ⟨left, -, rfl⟩ := Except.map_eq_ok.1 h
    exact .inr ⟨_, rfl⟩

lemma length_pruneMembers_le (h : pruneMembers fields members = .ok kept) :
    kept.length ≤ members.length := by
  induction members generalizing kept with
  | nil =>
    rw [pruneMembers] at h
    obtain rfl := Except.ok.inj h
    exact Nat.le_refl _
  | cons member rest ih =>
    obtain ⟨name, value⟩ := member
    rw [pruneMembers_cons] at h
    obtain ⟨first, hfirst, h⟩ := Except.bind_eq_ok.1 h
    obtain ⟨more, hmore, h⟩ := Except.bind_eq_ok.1 h
    have hle := ih hmore
    -- a member is left or removed, never doubled
    have hone : first.length ≤ 1 := by
      rcases pruneMember_cases hfirst with rfl | ⟨left, rfl⟩
      · exact Nat.zero_le 1
      · exact Nat.le_refl 1
    rw [← Except.ok.inj h, List.length_append, List.length_cons]
    omega

/-- Removing fields leaves members as they are exactly if it leaves each of them as it is. -/
theorem pruneMembers_eq_self_iff :
    pruneMembers fields members = .ok members ↔
      ∀ m ∈ members, pruneMember fields m.1 m.2 = .ok [m] := by
  induction members with
  | nil =>
    rw [pruneMembers]
    exact iff_of_true rfl fun _ h => absurd h List.not_mem_nil
  | cons member rest ih =>
    obtain ⟨name, value⟩ := member
    rw [List.forall_mem_cons, ← ih, pruneMembers_cons]
    constructor
    · intro h
      obtain ⟨first, hfirst, h⟩ := Except.bind_eq_ok.1 h
      obtain ⟨more, hmore, h⟩ := Except.bind_eq_ok.1 h
      have hlist : first ++ more = (name, value) :: rest := Except.ok.inj h
      rcases pruneMember_cases hfirst with rfl | ⟨left, rfl⟩
      · -- the members behind this one cannot make up for it
        have hle := length_pruneMembers_le hmore
        rw [List.nil_append] at hlist
        rw [hlist, List.length_cons] at hle
        omega
      · obtain ⟨heq, rfl⟩ := List.cons.inj hlist
        rw [heq] at hfirst
        exact ⟨hfirst, hmore⟩
    · rintro ⟨hfirst, hrest⟩
      rw [hfirst, hrest]
      rfl

lemma prune_obj_eq_self_iff :
    prune fields (.obj members) = .ok (.obj members) ↔
      ∀ m ∈ members, pruneMember fields m.1 m.2 = .ok [m] := by
  rw [← pruneMembers_eq_self_iff, prune_eq_obj_iff]
  constructor
  · rintro ⟨others, heq, h⟩
    rwa [← Json.obj.inj heq] at h
  · exact fun h => ⟨members, rfl, h⟩

lemma prune_arr_eq_self_iff :
    prune fields (.arr items) = .ok (.arr items) ↔
      ∀ item ∈ items, prune fields item = .ok item := by
  rw [← pruneItems_eq_self_iff, prune_eq_arr_iff]
  constructor
  · rintro ⟨others, heq, h⟩
    rwa [← Json.arr.inj heq] at h
  · exact fun h => ⟨items, rfl, h⟩

lemma pruneMember_properties_eq_self_iff :
    pruneMember fields "properties" (.obj properties) = .ok [("properties", .obj properties)] ↔
      ∀ p ∈ properties, p.1 ∉ fields ∧ prune fields p.2 = .ok p.2 := by
  rw [← pruneProperties_eq_self_iff, pruneMember_properties, Except.map_eq_ok]
  constructor
  · rintro ⟨kept, hkept, heq⟩
    rw [hkept, Json.obj.inj (Prod.mk.inj (List.cons.inj heq).1).2]
  · exact fun h => ⟨properties, h, rfl⟩

lemma pruneMember_search_eq_self_iff (hrequired : name ≠ "required")
    (hproperties : ∀ properties, (name, value) ≠ ("properties", .obj properties)) :
    pruneMember fields name value = .ok [(name, value)] ↔ prune fields value = .ok value := by
  rw [pruneMember_search fields hrequired hproperties, Except.map_eq_ok]
  constructor
  · rintro ⟨left, hleft, heq⟩
    rw [hleft, (Prod.mk.inj (List.cons.inj heq).1).2]
  · exact fun h => ⟨value, h, rfl⟩

/-- Required names stay exactly if there are some, none of them is removed, and none is a list or an
object. -/
lemma pruneMember_names_eq_self_iff :
    pruneMember fields "required" (.arr names) = .ok [("required", .arr names)] ↔
      names ≠ [] ∧ ∀ item ∈ names, item.IsScalar ∧ keepsItem fields item = true := by
  rw [pruneMember_names, Except.map_eq_ok, forall₂_and]
  constructor
  · rintro ⟨left, hleft, heq⟩
    unfold namesMember at heq
    split at heq
    · cases heq
    · rename_i hne
      obtain ⟨hscalar, hfilter⟩ := keepRequired_eq_ok_iff.1 hleft
      obtain rfl := Json.arr.inj (Prod.mk.inj (List.cons.inj heq).1).2
      refine ⟨fun hnil => hne (List.isEmpty_iff.2 hnil), hscalar, ?_⟩
      exact List.filter_eq_self.1 hfilter.symm
  · rintro ⟨hne, hscalar, hkeeps⟩
    refine ⟨names, keepRequired_eq_ok_iff.2 ⟨hscalar, (List.filter_eq_self.2 hkeeps).symm⟩, ?_⟩
    unfold namesMember
    rw [if_neg fun hempty => hne (List.isEmpty_iff.1 hempty)]

/-! ## Closing what nothing is removed from -/

/-- A member from which nothing is removed is such a member when it is closed. -/
lemma pruneMember_of_closeMember (h : closeMember name value = .ok left)
    (hself : pruneMember fields name value = .ok [(name, value)])
    (ih : ∀ child, sizeOf child ≤ sizeOf value → prune fields child = .ok child →
      ∀ closed, close child = .ok closed → prune fields closed = .ok closed) :
    pruneMember fields name left = .ok [(name, left)] := by
  -- closing reaches schemas below `properties`, in lists and below other keywords, and leaves
  -- every other member
  cases handled h with
  | @named named kept hname hkept =>
    subst hname
    rw [pruneMember_properties_eq_self_iff] at hself ⊢
    rw [closeNamed_eq_mapM] at hkept
    intro p hp
    obtain ⟨whole, hwhole, hp⟩ := Except.exists_of_mem_mapM hkept hp
    obtain ⟨schema, hschema, rfl⟩ := Except.map_eq_ok.1 hp
    obtain ⟨hfield, hprune⟩ := hself whole hwhole
    exact ⟨hfield, ih _ (Nat.le_of_lt (Json.sizeOf_member_lt hwhole)) hprune _ hschema⟩
  | @items items lefts hname hlefts =>
    have hrequired : name ≠ "required" := by
      rintro rfl
      exact absurd hname (by decide)
    have hlist : ∀ (items : List Json) (properties : List (String × Json)),
        (name, Json.arr items) ≠ ("properties", .obj properties) :=
      fun _ _ heq => nomatch (Prod.mk.inj heq).2
    rw [pruneMember_search_eq_self_iff hrequired (hlist _), prune_arr_eq_self_iff] at hself ⊢
    rw [closeItems_eq_mapM] at hlefts
    intro item hitem
    obtain ⟨whole, hwhole, hitem⟩ := Except.exists_of_mem_mapM hlefts hitem
    exact ih _ (Nat.le_of_lt (Json.sizeOf_item_lt hwhole)) (hself whole hwhole) _ hitem
  | @schema members kept hname hkept =>
    have hrequired : name ≠ "required" := by
      rintro rfl
      exact absurd hname (by decide)
    have hproperties : ∀ (value : Json) (properties : List (String × Json)),
        (name, value) ≠ ("properties", .obj properties) := by
      intro value properties heq
      rw [(Prod.mk.inj heq).1] at hname
      exact absurd hname (by decide)
    rw [pruneMember_search_eq_self_iff hrequired (hproperties _)] at hself ⊢
    exact ih _ (Nat.le_refl _) hself _ hkept
  | stays _ _ => exact hself

/-- A document from which nothing is removed is such a document when it is closed. -/
theorem prune_close (hself : prune fields document = .ok document)
    (h : close document = .ok closed) : prune fields closed = .ok closed := by
  -- by size: below a member the hypothesis holds at every depth, which closing may need
  induction document using Json.induction_on_size generalizing closed with
  | h document ih =>
    cases document with
    | obj members =>
      obtain ⟨kept, hkept, rfl⟩ := close_obj_eq_ok_iff.1 h
      rw [prune_obj_eq_self_iff] at hself ⊢
      intro m hm
      rcases exists_of_mem_closed hkept hm with rfl | ⟨whole, hwhole, value, hvalue, rfl⟩
      · rfl
      · refine pruneMember_of_closeMember hvalue (hself whole hwhole) ?_
        intro child hsize hprune closed hclosed
        exact ih child (Nat.lt_of_le_of_lt hsize (Json.sizeOf_member_lt hwhole)) hprune hclosed
    | _ =>
      unfold close at h
      rwa [← Except.ok.inj h]

/-! ## Adding what is there -/

/-- The properties at the top of a document. -/
def propertiesOf (members : List (String × Json)) : List (String × Json) :=
  ((Entries.get? "properties" members).bind Json.members?).getD []

/-- The required names at the top of a document. -/
def requiredOf (members : List (String × Json)) : List Json :=
  match Entries.get? "required" members with
  | some (.arr names) => names
  | _ => []

lemma setRequired_ne_nil (name : String) (names : List Json) :
    setRequired name true names ≠ [] := by
  unfold setRequired
  rw [if_pos rfl]
  split
  · rename_i hany
    rintro rfl
    cases hany
  · exact List.append_ne_nil_of_right_ne_nil _ (List.cons_ne_nil _ _)

/-- A required property is set among the properties, and its name among the required names. -/
lemma addProperty_required (members : List (String × Json)) (name : String) (schema : Json) :
    addProperty members name schema true =
      Entries.set "required" (.arr (setRequired name true (requiredOf members)))
        (Entries.set "properties" (.obj (Entries.set name schema (propertiesOf members)))
          members) := by
  have hrequired : ∀ value : Json, Entries.get? "required" (Entries.set "properties" value members)
      = Entries.get? "required" members := fun value =>
    Entries.get?_set_of_ne (by decide) value members
  unfold addProperty propertiesOf requiredOf
  simp only [hrequired]
  split
  · rename_i hnil
    exact absurd hnil (setRequired_ne_nil _ _)
  · rfl

lemma mem_propertiesOf {p : String × Json} (h : p ∈ propertiesOf members) :
    ∃ properties, ("properties", .obj properties) ∈ members ∧ p ∈ properties := by
  unfold propertiesOf at h
  cases hget : Entries.get? "properties" members with
  | none =>
    rw [hget] at h
    exact absurd h List.not_mem_nil
  | some value =>
    rw [hget] at h
    cases value with
    | obj properties => exact ⟨properties, Entries.mem_of_get? hget, h⟩
    | _ => exact absurd h List.not_mem_nil

lemma mem_requiredOf {item : Json} (h : item ∈ requiredOf members) :
    ∃ names, ("required", .arr names) ∈ members ∧ item ∈ names := by
  unfold requiredOf at h
  split at h
  · rename_i names hget
    exact ⟨names, Entries.mem_of_get? hget, h⟩
  · exact absurd h List.not_mem_nil

lemma mem_setRequired {item : Json} (h : item ∈ setRequired name true names) :
    item ∈ names ∨ item = .str name := by
  unfold setRequired at h
  rw [if_pos rfl] at h
  split at h
  · exact .inl h
  · exact (List.mem_append.1 h).imp id List.mem_singleton.1

/-- Removing fields still changes nothing when another property, from whose schema nothing is
removed, has been added. -/
lemma prune_addProperty (hself : prune fields (.obj members) = .ok (.obj members))
    (hname : name ∉ fields) (hschema : prune fields schema = .ok schema) :
    prune fields (.obj (addProperty members name schema true))
      = .ok (.obj (addProperty members name schema true)) := by
  rw [prune_obj_eq_self_iff] at hself ⊢
  rw [addProperty_required]
  -- a member of the new document is the list of required names, that of properties, or one of
  -- before
  intro m hm
  rcases Entries.mem_set hm with rfl | hm
  · refine pruneMember_names_eq_self_iff.2 ⟨setRequired_ne_nil _ _, fun item hitem => ?_⟩
    rcases mem_setRequired hitem with hitem | rfl
    · obtain ⟨names, hnames, hitem⟩ := mem_requiredOf hitem
      exact (pruneMember_names_eq_self_iff.1 (hself _ hnames)).2 item hitem
    · refine ⟨trivial, ?_⟩
      show (!fields.contains name) = true
      rw [Bool.not_eq_true', Bool.eq_false_iff]
      exact fun hcontains => hname (List.contains_iff_mem.1 hcontains)
  · rcases Entries.mem_set hm with rfl | hm
    · refine pruneMember_properties_eq_self_iff.2 fun p hp => ?_
      rcases Entries.mem_set hp with rfl | hp
      · exact ⟨hname, hschema⟩
      · obtain ⟨properties, hproperties, hp⟩ := mem_propertiesOf hp
        exact pruneMember_properties_eq_self_iff.1 (hself _ hproperties) p hp
    · exact hself m hm

/-- The top of a document has a property of this name and schema, and requires it. -/
structure HasRequired (members : List (String × Json)) (name : String) (schema : Json) : Prop where
  properties : ∃ properties, Entries.get? "properties" members = some (.obj properties) ∧
    Entries.get? name properties = some schema
  required : ∃ names, Entries.get? "required" members = some (.arr names) ∧
    names.any (isName name) = true

lemma any_setRequired (name : String) (names : List Json) :
    (setRequired name true names).any (isName name) = true := by
  unfold setRequired
  rw [if_pos rfl]
  split
  · assumption
  · rw [List.any_append]
    simp [isName]

/-- A property that is added and required is there and required. -/
lemma hasRequired_addProperty (members : List (String × Json)) (name : String) (schema : Json) :
    HasRequired (addProperty members name schema true) name schema := by
  rw [addProperty_required]
  constructor
  · refine ⟨_, ?_, Entries.get?_set_self name schema (propertiesOf members)⟩
    rw [Entries.get?_set_of_ne (by decide), Entries.get?_set_self]
  · exact ⟨_, Entries.get?_set_self _ _ _, any_setRequired _ _⟩

/-- A property that is there and required need not be added. -/
theorem addProperty_eq_self (h : HasRequired members name schema) :
    addProperty members name schema true = members := by
  obtain ⟨properties, hproperties, hschema⟩ := h.properties
  obtain ⟨names, hnames, hany⟩ := h.required
  have hof : propertiesOf members = properties := by
    unfold propertiesOf
    rw [hproperties]
    rfl
  have hrequired : setRequired name true (requiredOf members) = names := by
    unfold setRequired requiredOf
    rw [hnames]
    simp only [hany, if_pos]
  rw [addProperty_required, hof, hrequired, Entries.set_eq_self hschema,
    Entries.set_eq_self hproperties, Entries.set_eq_self hnames]

lemma get?_closeObject (h : Entries.get? name members = some value) :
    Entries.get? name (closeObject members) = some value := by
  by_cases hsettled : Settled members
  · rwa [closeObject_of_settled hsettled]
  · rw [closeObject_of_open hsettled, Entries.get?_append, h]
    rfl

/-- And it is still there and required when the document is closed, if its schema is closed. -/
lemma HasRequired.of_close (h : HasRequired members name schema)
    (hschema : close schema = .ok schema) (hclose : close (.obj members) = .ok (.obj kept)) :
    HasRequired kept name schema := by
  obtain ⟨properties, hproperties, hproperty⟩ := h.properties
  obtain ⟨names, hnames, hany⟩ := h.required
  -- closing goes into the properties and leaves the required names
  obtain ⟨others, hothers, heq⟩ := close_obj_eq_ok_iff.1 hclose
  obtain rfl := Json.obj.inj heq
  constructor
  · rcases get?_closeMembers hothers "properties" with
      ⟨hnone, -⟩ | ⟨value, left, hvalue, hleft, hget⟩
    · rw [hproperties] at hnone
      cases hnone
    · rw [hproperties] at hvalue
      obtain rfl := Option.some.inj hvalue
      rw [closeMember_named rfl, Except.map_eq_ok] at hleft
      obtain ⟨closed, hclosed, rfl⟩ := hleft
      refine ⟨closed, get?_closeObject hget, ?_⟩
      rw [closeNamed_eq_mapM, mapM_values_eq_ok_iff] at hclosed
      rcases get?_of_pairs hclosed name with ⟨hnone, -⟩ | ⟨old, new, hold, hnew, hget⟩
      · rw [hproperty] at hnone
        cases hnone
      · rw [hproperty] at hold
        obtain rfl := Option.some.inj hold
        rw [hget, ← Except.ok.inj (hschema.symm.trans hnew)]
  · refine ⟨names, get?_closeObject ?_, hany⟩
    rw [get?_closeMembers_ignore hothers (show followOf "required" = .ignore from rfl), hnames]

/-! ## Response schemas -/

lemma response_eq_ok_iff :
    response document = .ok answer ↔
      ∃ members, prune mediaFields document = .ok (.obj members) ∧
        close (.obj (addProperty members noteField noteSchema true)) = .ok answer := by
  unfold response
  rw [Except.bind_eq_ok]
  constructor
  · rintro ⟨pruned, hpruned, h⟩
    cases pruned with
    | obj members => exact ⟨members, hpruned, h⟩
    | _ => cases h
  · rintro ⟨members, hpruned, h⟩
    exact ⟨_, hpruned, h⟩

/-- The response schema of a response schema is this schema, whatever the document has been. -/
theorem response_response (h : response document = .ok answer) : response answer = .ok answer := by
  obtain ⟨members, hpruned, hclosed⟩ := response_eq_ok_iff.1 h
  obtain ⟨kept, rfl⟩ := exists_obj_of_close hclosed
  -- each step finds done in the answer what it would do: the fields are gone, also behind the two
  -- other steps, the note is there, also when all is closed, and all is closed
  have hself : prune mediaFields (.obj members) = .ok (.obj members) := by
    rw [prune_prune (fun _ => or_self_iff.symm) hpruned, hpruned]
  have hnote : prune mediaFields noteSchema = .ok noteSchema := rfl
  have hnoted := prune_addProperty hself (show noteField ∉ mediaFields by decide) hnote
  have hthere := (hasRequired_addProperty members noteField noteSchema).of_close
    (close_of_usable usable_noteSchema) hclosed
  refine response_eq_ok_iff.2 ⟨kept, prune_close hnoted hclosed, ?_⟩
  rw [addProperty_eq_self hthere]
  exact close_close hclosed

/-- A document that has a property for the note already, and lists required names that are all
removed, in front of a schema of additional properties that is open. -/
theorem response_response_noted :
    let document := Json.obj [("required", .arr [.str "__icon_url__"]),
      ("properties", .obj [(noteField, .obj [("type", .str "object")]), ("__icon_url__", .null)]),
      ("additionalProperties", .obj [("type", .str "object")])]
    let answer := Json.obj [("properties", .obj [(noteField, noteSchema)]),
      ("additionalProperties", .obj [("type", .str "object"), addition]),
      ("required", .arr [.str noteField])]
    response document = .ok answer ∧ response answer = .ok answer := by
  intro document answer
  have h : response document = .ok answer := rfl
  exact ⟨h, response_response h⟩

end SlideContract.Edit
