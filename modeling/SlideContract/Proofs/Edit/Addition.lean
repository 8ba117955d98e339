import SlideContract.Proofs.Edit.Closed

/-!
# What closing adds

On its way through a document closing adds to every open object schema that there are no additional
properties, at the end of its members. Nothing else in the document is changed, and nothing is left
to add when it is closed again.

* `FollowedAt`, `ReachesAt`: the way of closing, with the positions that it comes by;
* `Json.extendAt`: a value with a member added at some positions;
* `close_close`: a closed document stays as it is;
* `adds`, `close_adds`: what closing adds, and where.
-/

namespace SlideContract

namespace Json

/-- The way to a part of a value: at each step the number of the item or member that is entered. -/
abbrev Position := List ℕ

mutual

/-- The value with a member behind those of every object at a marked position. -/
def extendAt (member : String × Json) (marked : Position → Bool) : Json → Json
  | .arr items => .arr (extendItems member marked 0 items)
  | .obj members =>
    .obj (extendMembers member marked 0 members ++ if marked [] then [member] else [])
  | value => value

/-- The items, counted from a first place, with a member added at the marked positions. -/
def extendItems (member : String × Json) (marked : Position → Bool) (first : ℕ) :
    List Json → List Json
  | [] => []
  | item :: rest =>
    extendAt member (fun p => marked (first :: p)) item ::
      extendItems member marked (first + 1) rest

/-- The members, counted from a first place, with a member added at the marked positions. -/
def extendMembers (member : String × Json) (marked : Position → Bool) (first : ℕ) :
    List (String × Json) → List (String × Json)
  | [] => []
  | (name, value) :: rest =>
    (name, extendAt member (fun p => marked (first :: p)) value) ::
      extendMembers member marked (first + 1) rest

end

section Extend

variable {member : String × Json} {marked : Position → Bool} {first : ℕ}
  {items lefts : List Json} {members kept : List (String × Json)}

/-- Items that are what the extension makes of each item are the extended items. -/
lemma eq_extendItems {R : Json → Json → Prop} (hpairs : List.Forall₂ R items lefts)
    (h : ∀ i item left, items[i]? = some item → R item left →
      left = extendAt member (fun p => marked ((first + i) :: p)) item) :
    lefts = extendItems member marked first items := by
  induction hpairs generalizing first with
  | nil =>
    unfold extendItems
    rfl
  | cons hfirst _ ih =>
    unfold extendItems
    rw [h 0 _ _ rfl hfirst]
    congr 1
    refine ih fun i item left hitem hR => ?_
    rw [h (i + 1) item left hitem hR, Nat.add_right_comm]
    rfl

/-- Members that are what the extension makes of each member are the extended members. -/
lemma eq_extendMembers {R : String × Json → String × Json → Prop}
    (hpairs : List.Forall₂ R members kept)
    (h : ∀ i m left, members[i]? = some m → R m left →
      left = (m.1, extendAt member (fun p => marked ((first + i) :: p)) m.2)) :
    kept = extendMembers member marked first members := by
  induction hpairs generalizing first with
  | nil =>
    unfold extendMembers
    rfl
  | cons hfirst _ ih =>
    unfold extendMembers
    rw [h 0 _ _ rfl hfirst]
    congr 1
    refine ih fun i m left hm hR => ?_
    rw [h (i + 1) m left hm hR, Nat.add_right_comm]
    rfl

/-- A value without marked positions stays as it is. -/
lemma extendAt_unmarked {value : Json} (h : ∀ p, marked p = false) :
    extendAt member marked value = value := by
  induction value using Json.induction_on_size generalizing marked with
  | h value ih =>
    cases value with
    | arr items =>
      unfold extendAt
      rw [← eq_extendItems (List.forall₂_same.2 fun _ _ => rfl : List.Forall₂ Eq items items)]
      rintro i item _ hitem rfl
      rw [ih item (Json.sizeOf_item_lt (List.mem_of_getElem? hitem)) fun p => h _]
    | obj members =>
      unfold extendAt
      rw [h [], ← eq_extendMembers
        (List.forall₂_same.2 fun _ _ => rfl : List.Forall₂ Eq members members)]
      · exact congrArg Json.obj (List.append_nil members)
      · rintro i m _ hm rfl
        rw [ih m.2 (Json.sizeOf_member_lt (List.mem_of_getElem? hm)) fun p => h _]
    | _ =>
      unfold extendAt
      rfl

end Extend

end Json

namespace Edit
open Json (Position extendAt extendItems extendMembers)

variable {key : String} {value left child document closed : Json}
  {members named kept node : List (String × Json)} {items lefts : List Json} {p : Position}

/-! ## The way of closing, by positions -/

/-- The names under which a list of schemas may stand. -/
def listKeywords : List String := ["items", "allOf", "anyOf", "oneOf"]

/-- The names under which a single schema may stand. -/
def schemaKeywords : List String := ["items", "not", "additionalProperties"]

/-- The value of a member leads to a schema that stands at a position in the value. -/
inductive FollowedAt (key : String) : Json → Position → Json → Prop where
  /-- The schema is that of a property. -/
  | property {named : List (String × Json)} {i : ℕ} {name : String} {schema : Json}
    (hkey : key = "properties") (h : named[i]? = some (name, schema)) :
    FollowedAt key (.obj named) [i] schema
  /-- The schema is in a list of schemas. -/
  | item {items : List Json} {i : ℕ} {schema : Json} (hkey : key ∈ listKeywords)
    (h : items[i]? = some schema) : FollowedAt key (.arr items) [i] schema
  /-- The schema is the value itself. -/
  | whole {members : List (String × Json)} (hkey : key ∈ schemaKeywords) :
    FollowedAt key (.obj members) [] (.obj members)

/-- A position in a document is on the way of closing, and these are the members of the object that
stands there. -/
inductive ReachesAt : Json → Position → List (String × Json) → Prop where
  | root (members : List (String × Json)) : ReachesAt (.obj members) [] members
  | follow {members node : List (String × Json)} {m : String × Json} {i : ℕ} {p q : Position}
    {child : Json} (hmember : members[i]? = some m) (hchild : FollowedAt m.1 m.2 p child)
    (h : ReachesAt child q node) : ReachesAt (.obj members) (i :: (p ++ q)) node

/-- An open object schema on the way of closing stands at a position in a document. -/
def OpenAt (document : Json) (p : Position) : Prop :=
  ∃ node, ReachesAt document p node ∧ ¬ Settled node

lemma followOf_eq_properties_iff : followOf key = .properties ↔ key = "properties" := by
  constructor
  · intro h
    unfold followOf at h
    split at h <;> first | rfl | cases h
  · rintro rfl
    rfl

lemma mem_listKeywords_iff :
    key ∈ listKeywords ↔ followOf key = .schemas ∨ followOf key = .list := by
  constructor
  · intro h
    simp only [listKeywords, List.mem_cons, List.not_mem_nil, or_false] at h
    rcases h with rfl | rfl | rfl | rfl <;> decide
  · intro h
    unfold followOf at h
    split at h <;> first | decide | (rcases h with h | h <;> cases h)

lemma mem_schemaKeywords_iff :
    key ∈ schemaKeywords ↔ followOf key = .schemas ∨ followOf key = .schema := by
  constructor
  · intro h
    simp only [schemaKeywords, List.mem_cons, List.not_mem_nil, or_false] at h
    rcases h with rfl | rfl | rfl <;> decide
  · intro h
    unfold followOf at h
    split at h <;> first | decide | (rcases h with h | h <;> cases h)

lemma mem_followed (h : FollowedAt key value p child) : child ∈ followed key value := by
  unfold followed
  cases h with
  | property hkey h =>
    rw [followOf_eq_properties_iff.2 hkey]
    exact List.mem_map.2 ⟨_, List.mem_of_getElem? h, rfl⟩
  | item hkey h =>
    rcases mem_listKeywords_iff.1 hkey with hkey | hkey
    all_goals
      rw [hkey]
      exact List.mem_of_getElem? h
  | whole hkey =>
    rcases mem_schemaKeywords_iff.1 hkey with hkey | hkey
    all_goals
      rw [hkey]
      exact List.mem_singleton_self _

/-- What stands at a position on the way of closing is reached. -/
lemma reaches_of_reachesAt (h : ReachesAt document p node) : Reaches document node := by
  induction h with
  | root members => exact .refl
  | follow hmember hchild _ ih =>
    exact .head ⟨_, rfl, _, List.mem_of_getElem? hmember, mem_followed hchild⟩ ih

/-! ## Members -/

/-- What becomes of the value of a member that can be closed. -/
inductive Handled (key : String) : Json → Json → Prop where
  /-- The schemas of properties are closed. -/
  | named {named kept : List (String × Json)} (hkey : key = "properties")
    (h : closeNamed named = .ok kept) : Handled key (.obj named) (.obj kept)
  /-- The schemas of a list are closed. -/
  | items {items lefts : List Json} (hkey : key ∈ listKeywords) (h : closeItems items = .ok lefts) :
    Handled key (.arr items) (.arr lefts)
  /-- The value is closed as a schema. -/
  | schema {members kept : List (String × Json)} (hkey : key ∈ schemaKeywords)
    (h : close (.obj members) = .ok (.obj kept)) : Handled key (.obj members) (.obj kept)
  /-- The value leads nowhere, and stays as it is. -/
  | stays {value : Json} (hself : closeMember key value = .ok value)
    (hnone : ∀ p child, ¬ FollowedAt key value p child) : Handled key value value

lemma close_scalar (h : value.IsScalar) : close value = .ok value := by
  cases value with
  | arr items => exact h.elim
  | obj members => exact h.elim
  | _ =>
    unfold close
    rfl

lemma close_arr (items : List Json) : close (.arr items) = .ok (.arr items) := by
  unfold close
  rfl

lemma exists_obj_of_close (h : close (.obj members) = .ok left) : ∃ kept, left = .obj kept := by
  unfold close at h
  obtain ⟨others, -, h⟩ := Except.bind_eq_ok.1 h
  exact ⟨_, (Except.ok.inj h).symm⟩

lemma closeMember_named (hkey : key = "properties") (named : List (String × Json)) :
    closeMember key (.obj named) = (closeNamed named).map .obj := by
  unfold closeMember
  rw [followOf_eq_properties_iff.2 hkey]
  rfl

lemma closeMember_items (hkey : key ∈ listKeywords) (items : List Json) :
    closeMember key (.arr items) = (closeItems items).map .arr := by
  unfold closeMember
  rcases mem_listKeywords_iff.1 hkey with hkey | hkey
  all_goals
    rw [hkey]
    rfl

lemma closeMember_schema (hkey : key ∈ schemaKeywords) (members : List (String × Json)) :
    closeMember key (.obj members) = close (.obj members) := by
  unfold closeMember
  rcases mem_schemaKeywords_iff.1 hkey with hkey | hkey
  all_goals rw [hkey]

/-- A scalar leads nowhere, and if the member can be closed it stays as it is. -/
lemma handled_scalar (hscalar : value.IsScalar) (h : closeMember key value = .ok left) :
    Handled key value left := by
  have hself : left = value := by
    unfold closeMember at h
    split at h
    · exact hscalar.elim
    · split at h
      · exact (Except.ok.inj h).symm
      · cases h
    · exact hscalar.elim
    · rw [close_scalar hscalar] at h
      exact (Except.ok.inj h).symm
    · exact hscalar.elim
    · exact (Except.ok.inj h).symm
    · rw [close_scalar hscalar] at h
      exact (Except.ok.inj h).symm
    · exact (Except.ok.inj h).symm
  subst hself
  refine .stays h fun p child hchild => ?_
  cases hchild <;> exact hscalar

/-- A list is a list of schemas, or leads nowhere. -/
lemma handled_arr (h : closeMember key (.arr items) = .ok left) :
    Handled key (.arr items) left := by
  by_cases hkey : key ∈ listKeywords
  · rw [closeMember_items hkey] at h
    obtain ⟨lefts, hlefts, rfl⟩ := Except.map_eq_ok.1 h
    exact .items hkey hlefts
  · have hself : left = .arr items := by
      rw [mem_listKeywords_iff, not_or] at hkey
      unfold closeMember at h
      -- a list below a keyword of another kind is left, or would have been an error
      cases hfollow : followOf key with
      | properties =>
        simp only [hfollow] at h
        split at h
        · exact (Except.ok.inj h).symm
        · cases h
      | schemas => exact absurd hfollow hkey.1
      | list => exact absurd hfollow hkey.2
      | schema =>
        simp only [hfollow, close_arr] at h
        exact (Except.ok.inj h).symm
      | ignore =>
        simp only [hfollow] at h
        exact (Except.ok.inj h).symm
    subst hself
    refine .stays h fun p child hchild => ?_
    cases hchild with
    | item hkey' _ => exact hkey hkey'

/-- An object holds the schemas of properties, or is a schema, or leads nowhere. -/
lemma handled_obj (h : closeMember key (.obj members) = .ok left) :
    Handled key (.obj members) left := by
  by_cases hnamed : key = "properties"
  · rw [closeMember_named hnamed] at h
    obtain ⟨kept, hkept, rfl⟩ := Except.map_eq_ok.1 h
    exact .named hnamed hkept
  by_cases hkey : key ∈ schemaKeywords
  · rw [closeMember_schema hkey] at h
    obtain ⟨kept, rfl⟩ := exists_obj_of_close h
    exact .schema hkey h
  · have hself : left = .obj members := by
      rw [mem_schemaKeywords_iff, not_or] at hkey
      unfold closeMember at h
      -- whatever closing does for a keyword of another kind, it leaves an object below it
      cases hfollow : followOf key with
      | properties => exact absurd (followOf_eq_properties_iff.1 hfollow) hnamed
      | schemas => exact absurd hfollow hkey.1
      | list =>
        simp only [hfollow] at h
        exact (Except.ok.inj h).symm
      | schema => exact absurd hfollow hkey.2
      | ignore =>
        simp only [hfollow] at h
        exact (Except.ok.inj h).symm
    subst hself
    refine .stays h fun p child hchild => ?_
    cases hchild with
    | property hkey' _ => exact hnamed hkey'
    | whole hkey' => exact hkey hkey'

lemma handled (h : closeMember key value = .ok left) : Handled key value left := by
  cases value with
  | arr items => exact handled_arr h
  | obj members => exact handled_obj h
  | _ => exact handled_scalar trivial h

/-- A value of which something is made by closing the member is made from it in no other way. -/
lemma Handled.closeMember (h : Handled key value left) : closeMember key value = .ok left := by
  cases h with
  | named hkey h => rw [closeMember_named hkey, h, Except.map]
  | items hkey h => rw [closeMember_items hkey, h, Except.map]
  | schema hkey h => rw [closeMember_schema hkey, h]
  | stays hself _ => exact hself

/-! ## Closing twice -/

/-- A member that is closed can be closed again without a change, if this is so of what is inside
of it. -/
lemma closeMember_again (h : closeMember key value = .ok left)
    (ih : ∀ child, sizeOf child ≤ sizeOf value → ∀ closed, close child = .ok closed →
      close closed = .ok closed) :
    closeMember key left = .ok left := by
  cases handled h with
  | @named named kept hkey hkept =>
    refine Handled.closeMember (.named hkey (closeNamed_eq_self_iff.2 fun p hp => ?_))
    rw [closeNamed_eq_mapM] at hkept
    obtain ⟨whole, hwhole, hp⟩ := Except.exists_of_mem_mapM hkept hp
    obtain ⟨schema, hschema, rfl⟩ := Except.map_eq_ok.1 hp
    exact ih _ (Nat.le_of_lt (Json.sizeOf_member_lt hwhole)) _ hschema
  | @items items lefts hkey hlefts =>
    refine Handled.closeMember (.items hkey (closeItems_eq_self_iff.2 fun item hitem => ?_))
    rw [closeItems_eq_mapM] at hlefts
    obtain ⟨whole, hwhole, hitem⟩ := Except.exists_of_mem_mapM hlefts hitem
    exact ih _ (Nat.le_of_lt (Json.sizeOf_item_lt hwhole)) _ hitem
  | schema hkey hkept => exact Handled.closeMember (.schema hkey (ih _ (Nat.le_refl _) _ hkept))
  | stays hself _ => exact hself

/-- An object that is closed says something about additional properties. -/
lemma settled_closeObject (members : List (String × Json)) : Settled (closeObject members) := by
  by_cases h : Settled members
  · rwa [closeObject_of_settled h]
  · rw [closeObject_of_open h]
    intro _
    rw [Entries.has_iff_mem_names, Entries.names_append]
    exact List.mem_append_right _ List.mem_cons_self

lemma mem_closeObject {m : String × Json} (h : m ∈ closeObject members) :
    m ∈ members ∨ m = addition := by
  by_cases hsettled : Settled members
  · rw [closeObject_of_settled hsettled] at h
    exact .inl h
  · rw [closeObject_of_open hsettled] at h
    exact (List.mem_append.1 h).imp id List.mem_singleton.1

/-- A member of a closed object is the one that is added, or comes of closing a member. -/
lemma exists_of_mem_closed (hkept : closeMembers members = .ok kept) {m : String × Json}
    (hm : m ∈ closeObject kept) :
    m = addition ∨ ∃ whole ∈ members, ∃ value, closeMember whole.1 whole.2 = .ok value ∧
      m = (whole.1, value) := by
  rcases mem_closeObject hm with hm | hadded
  · rw [closeMembers_eq_mapM] at hkept
    obtain ⟨whole, hwhole, hmember⟩ := Except.exists_of_mem_mapM hkept hm
    obtain ⟨value, hvalue, hm⟩ := Except.map_eq_ok.1 hmember
    exact Or.inr ⟨whole, hwhole, value, hvalue, hm.symm⟩
  · exact Or.inl hadded

/-- A closed document stays as it is when it is closed again. -/
theorem close_close (h : close document = .ok closed) : close closed = .ok closed := by
  induction document using Json.induction_on_size generalizing closed with
  | h document ih =>
    cases document with
    | obj members =>
      obtain ⟨kept, hkept, rfl⟩ := close_obj_eq_ok_iff.1 h
      refine close_obj_eq_self_iff.2 ⟨fun m hm => ?_, settled_closeObject kept⟩
      -- the member that is added is followed as well, to a boolean, which stays as it is
      rcases exists_of_mem_closed hkept hm with rfl | ⟨whole, hwhole, value, hvalue, rfl⟩
      · exact closeMember_closed
      · refine closeMember_again hvalue fun child hsize closed hclosed => ?_
        exact ih child (Nat.lt_of_le_of_lt hsize (Json.sizeOf_member_lt hwhole)) hclosed
    | _ =>
      unfold close at h
      rw [← Except.ok.inj h]
      unfold close
      rfl

/-! ## Positions -/

lemma reachesAt_nil_iff : ReachesAt (.obj members) [] node ↔ node = members := by
  constructor
  · intro h
    cases h
    rfl
  · rintro rfl
    exact .root _

/-- An open object schema that the value of a member leads to stands at a position in the value. -/
def OpenBelow (key : String) (value : Json) (p : Position) : Prop :=
  ∃ front child behind, FollowedAt key value front child ∧ p = front ++ behind ∧
    OpenAt child behind

/-- What is open in a member is open behind the step to this member. -/
lemma openAt_cons_iff {m : String × Json} {i : ℕ} (hm : members[i]? = some m) :
    OpenAt (.obj members) (i :: p) ↔ OpenBelow m.1 m.2 p := by
  constructor
  · rintro ⟨node, hreaches, hopen⟩
    generalize hp : i :: p = position at hreaches
    cases hreaches with
    | root => cases hp
    | follow hmember hchild hreaches =>
      obtain ⟨rfl, rfl⟩ := List.cons.inj hp
      rw [hm] at hmember
      obtain rfl := Option.some.inj hmember
      exact ⟨_, _, _, hchild, rfl, _, hreaches, hopen⟩
  · rintro ⟨front, child, behind, hchild, rfl, node, hreaches, hopen⟩
    exact ⟨node, .follow hm hchild hreaches, hopen⟩

/-- The properties of a schema are no schema themselves. -/
lemma not_openBelow_named (hkey : key = "properties") : ¬ OpenBelow key (.obj named) [] := by
  rintro ⟨front, child, behind, hchild, hnil, -⟩
  cases hchild with
  | property => cases hnil
  | whole hkey' => exact absurd (hkey ▸ hkey') (by decide)

lemma openBelow_named_iff (hkey : key = "properties") {m : String × Json} {i : ℕ}
    (hm : named[i]? = some m) : OpenBelow key (.obj named) (i :: p) ↔ OpenAt m.2 p := by
  constructor
  · rintro ⟨front, child, behind, hchild, hp, hopen⟩
    cases hchild with
    | property _ hchild =>
      obtain ⟨rfl, rfl⟩ := List.cons.inj hp
      rw [hm] at hchild
      rwa [(Option.some.inj hchild)]
    | whole hkey' => exact absurd (hkey ▸ hkey') (by decide)
  · exact fun hopen => ⟨[i], m.2, p, .property hkey hm, rfl, hopen⟩

lemma openBelow_item_iff (hkey : key ∈ listKeywords) {item : Json} {i : ℕ}
    (hitem : items[i]? = some item) : OpenBelow key (.arr items) (i :: p) ↔ OpenAt item p := by
  constructor
  · rintro ⟨front, child, behind, hchild, hp, hopen⟩
    cases hchild with
    | item _ hchild =>
      obtain ⟨rfl, rfl⟩ := List.cons.inj hp
      rw [hitem] at hchild
      rwa [Option.some.inj hchild]
  · exact fun hopen => ⟨[i], item, p, .item hkey hitem, rfl, hopen⟩

lemma openBelow_schema_iff (hkey : key ∈ schemaKeywords) :
    OpenBelow key (.obj members) p ↔ OpenAt (.obj members) p := by
  constructor
  · rintro ⟨front, child, behind, hchild, rfl, hopen⟩
    cases hchild with
    | property hkey' => exact absurd (hkey' ▸ hkey) (by decide)
    | whole => exact hopen
  · exact fun hopen => ⟨[], .obj members, p, .whole hkey, rfl, hopen⟩

lemma not_openAt (h : value.members? = none) : ¬ OpenAt value p := by
  rintro ⟨node, hreaches, -⟩
  cases hreaches <;> cases h

/-- Closing a schema adds what closes an object exactly at the positions of the open ones. -/
def Adds (document : Json) : Prop :=
  ∀ closed marked, close document = .ok closed →
    (∀ p, marked p = true ↔ OpenAt document p) → closed = extendAt addition marked document

/-- A step through named values that keeps the names gives named values by pairs. -/
lemma mapM_values_eq_ok_iff {f : String × Json → Except Fault Json} :
    (members.mapM fun m => (f m).map fun value => (m.1, value)) = .ok kept ↔
      List.Forall₂ (fun m left => left.1 = m.1 ∧ f m = .ok left.2) members kept := by
  rw [Except.mapM_eq_ok_iff]
  refine iff_of_eq (congrArg (List.Forall₂ · members kept) ?_)
  funext m left
  rw [eq_iff_iff, Except.map_eq_ok]
  constructor
  · rintro ⟨value, hvalue, rfl⟩
    exact ⟨rfl, hvalue⟩
  · rintro ⟨hname, hvalue⟩
    exact ⟨left.2, hvalue, by rw [← hname]⟩

/-- The value of a member is extended where the schemas inside of it are. -/
lemma eq_extendAt_of_closeMember {marked : Position → Bool}
    (h : closeMember key value = .ok left)
    (hmarked : ∀ p, marked p = true ↔ OpenBelow key value p)
    (ih : ∀ child, sizeOf child ≤ sizeOf value → Adds child) :
    left = extendAt addition marked value := by
  cases handled h with
  | @named named kept hkey hkept =>
    have hroot : marked [] = false :=
      Bool.eq_false_iff.2 fun hmark => not_openBelow_named hkey ((hmarked []).1 hmark)
    rw [closeNamed_eq_mapM, mapM_values_eq_ok_iff] at hkept
    unfold extendAt
    rw [hroot, ← Json.eq_extendMembers hkept fun i m schema hm hschema => ?_]
    · exact congrArg Json.obj (List.append_nil kept).symm
    · have hle := Nat.le_of_lt (Json.sizeOf_member_lt (List.mem_of_getElem? hm))
      refine Prod.ext hschema.1 (ih m.2 hle _ _ hschema.2 fun p => ?_)
      rw [hmarked, Nat.zero_add, openBelow_named_iff hkey hm]
  | @items items lefts hkey hlefts =>
    rw [closeItems_eq_mapM, Except.mapM_eq_ok_iff] at hlefts
    unfold extendAt
    rw [← Json.eq_extendItems hlefts fun i item left hitem hleft => ?_]
    have hle := Nat.le_of_lt (Json.sizeOf_item_lt (List.mem_of_getElem? hitem))
    refine ih item hle _ _ hleft fun p => ?_
    rw [hmarked, Nat.zero_add, openBelow_item_iff hkey hitem]
  | @schema members kept hkey hkept =>
    refine ih _ (Nat.le_refl _) _ _ hkept fun p => ?_
    rw [hmarked, openBelow_schema_iff hkey]
  | stays _ hnone =>
    -- nothing is followed, so that no position is marked
    refine (Json.extendAt_unmarked fun p => ?_).symm
    rw [Bool.eq_false_iff, ne_eq, hmarked]
    rintro ⟨front, child, behind, hchild, -⟩
    exact hnone front child hchild

/-- What is looked up in the result is what a step makes of what is looked up. -/
lemma get?_of_pairs {f : String × Json → Except Fault Json}
    (h : List.Forall₂ (fun m left => left.1 = m.1 ∧ f m = .ok left.2) members kept)
    (name : String) :
    (Entries.get? name members = none ∧ Entries.get? name kept = none) ∨
      ∃ value left, Entries.get? name members = some value ∧ f (name, value) = .ok left ∧
        Entries.get? name kept = some left := by
  induction h with
  | nil => exact .inl ⟨rfl, rfl⟩
  | @cons m left _ _ hfirst _ ih =>
    obtain ⟨other, value⟩ := m
    obtain ⟨same, result⟩ := left
    obtain ⟨hsame, hresult⟩ := hfirst
    obtain rfl : same = other := hsame
    unfold Entries.get?
    by_cases hname : same = name
    · subst hname
      rw [if_pos rfl, if_pos rfl]
      exact .inr ⟨value, result, rfl, hresult, rfl⟩
    · rw [if_neg hname, if_neg hname]
      exact ih

lemma get?_closeMembers (h : closeMembers members = .ok kept) (name : String) :
    (Entries.get? name members = none ∧ Entries.get? name kept = none) ∨
      ∃ value left, Entries.get? name members = some value ∧ closeMember name value = .ok left ∧
        Entries.get? name kept = some left := by
  rw [closeMembers_eq_mapM, mapM_values_eq_ok_iff] at h
  exact get?_of_pairs h name

/-- What a name says that leads nowhere is not changed. -/
lemma get?_closeMembers_ignore (h : closeMembers members = .ok kept) {name : String}
    (hname : followOf name = .ignore) :
    Entries.get? name kept = Entries.get? name members := by
  rcases get?_closeMembers h name with ⟨hmembers, hkept⟩ | ⟨value, left, hmembers, hleft, hkept⟩
  · rw [hmembers, hkept]
  · unfold closeMember at hleft
    simp only [hname] at hleft
    rw [hmembers, hkept, Except.ok.inj hleft]

/-- Closing the members changes neither the type of a schema nor whether it says something about
additional properties. -/
lemma settled_iff_of_closeMembers (h : closeMembers members = .ok kept) :
    Settled kept ↔ Settled members := by
  have hsays : Entries.has "additionalProperties" kept
      = Entries.has "additionalProperties" members := by
    unfold Entries.has
    rcases get?_closeMembers h "additionalProperties" with ⟨hmembers, hkept⟩ | hfound
    · rw [hmembers, hkept]
    · obtain ⟨value, left, hmembers, -, hkept⟩ := hfound
      rw [hmembers, hkept]
      rfl
  unfold Settled isObjectSchema
  rw [get?_closeMembers_ignore h (show followOf "type" = .ignore from rfl), hsays]

/-- Closing adds what closes an object at the positions of the open object schemas on its way, and
changes nothing else. -/
theorem adds (document : Json) : Adds document := by
  induction document using Json.induction_on_size with
  | h document ih =>
    intro closed marked hclosed hmarked
    cases document with
    | obj members =>
      obtain ⟨kept, hkept, rfl⟩ := close_obj_eq_ok_iff.1 hclosed
      -- whether the root is open is the same before its members are closed and after
      have hsettled := settled_iff_of_closeMembers hkept
      rw [closeMembers_eq_mapM, mapM_values_eq_ok_iff] at hkept
      have hmembers : kept = extendMembers addition marked 0 members :=
        Json.eq_extendMembers hkept fun i m left hm hleft => by
          refine Prod.ext hleft.1 (eq_extendAt_of_closeMember hleft.2 (fun p => ?_) ?_)
          · rw [hmarked, Nat.zero_add, openAt_cons_iff hm]
          · intro child hsize
            exact ih child (Nat.lt_of_le_of_lt hsize
              (Json.sizeOf_member_lt (List.mem_of_getElem? hm)))
      have hroot : marked [] = true ↔ ¬ Settled members := by
        rw [hmarked]
        constructor
        · rintro ⟨node, hreaches, hopen⟩
          rwa [reachesAt_nil_iff.1 hreaches] at hopen
        · exact fun hopen => ⟨members, .root members, hopen⟩
      unfold extendAt
      rw [← hmembers]
      by_cases hopen : Settled members
      · rw [closeObject_of_settled (hsettled.2 hopen), if_neg (mt hroot.1 (not_not.2 hopen)),
          List.append_nil]
      · rw [closeObject_of_open (mt hsettled.1 hopen), if_pos (hroot.2 hopen)]
    | _ =>
      unfold close at hclosed
      rw [← Except.ok.inj hclosed]
      refine (Json.extendAt_unmarked fun p => ?_).symm
      rw [Bool.eq_false_iff, ne_eq, hmarked]
      exact not_openAt rfl

/-- Closing a document adds that there are no additional properties to exactly the open object
schemas on its way, and changes nothing else; in the result every object schema on the way says
something about additional properties, so that closing it again makes no difference. -/
theorem close_adds (h : close document = .ok closed) :
    (∃ marked : Position → Bool, (∀ p, marked p = true ↔ OpenAt document p) ∧
      closed = extendAt ("additionalProperties", .bool false) marked document) ∧
    (∀ p node, ReachesAt closed p node → isObjectSchema node = true →
      Entries.has "additionalProperties" node = true) ∧
    close closed = .ok closed := by
  have hagain := close_close h
  classical
  refine ⟨⟨fun p => decide (OpenAt document p), fun p => decide_eq_true_iff, ?_⟩, ?_, hagain⟩
  · exact adds document closed _ h fun p => decide_eq_true_iff
  · intro p node hreaches
    exact (close_eq_self_iff hagain).1 hagain node (reaches_of_reachesAt hreaches)

/-- Open object schemas in a combinator and under additional properties are closed in their places,
and the one around them has something to say already. -/
theorem close_adds_nested :
    let document := Json.obj [("type", .str "object"),
      ("properties", .obj [("c", .obj [("anyOf", .arr [.obj [("type", .str "object")],
        .obj [("type", .str "string")]])])]),
      ("additionalProperties", .obj [("type", .str "object"), ("items", .arr [])])]
    let closed := Json.obj [("type", .str "object"),
      ("properties", .obj [("c", .obj [("anyOf", .arr [
        .obj [("type", .str "object"), ("additionalProperties", .bool false)],
        .obj [("type", .str "string")]])])]),
      ("additionalProperties", .obj [("type", .str "object"), ("items", .arr []),
        ("additionalProperties", .bool false)])]
    close document = .ok closed ∧
    (∃ marked : Position → Bool, (∀ p, marked p = true ↔ OpenAt document p) ∧
      closed = extendAt ("additionalProperties", .bool false) marked document) ∧
    (∀ p node, ReachesAt closed p node → isObjectSchema node = true →
      Entries.has "additionalProperties" node = true) ∧
    close closed = .ok closed := by
  intro document closed
  have h : close document = .ok closed := rfl
  exact ⟨h, close_adds h⟩

end Edit
end SlideContract
