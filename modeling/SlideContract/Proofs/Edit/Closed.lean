import SlideContract.Proofs.Edit.Kept
import SlideContract.Proofs.Schema.Valid

/-!
# What closing changes

Closing goes further through a document than the strict check, which passes over combinators, `not`,
lists of items and schemas of additional properties, and over schemas without a type. So it leaves a
usable document as it is exactly if the object schemas that only closing reaches say something about
additional properties of their own accord.

* `Leads`, `Reaches`: the way of closing through a document;
* `reaches_of_examined`: it covers the way of the strict check;
* `close_eq_self_iff`: what closing leaves as it is;
* `close_usable_eq_self_iff`: which usable documents closing leaves as they are.
-/

namespace SlideContract.Edit
open Relation Schema.Strict

variable {key : String} {value left child document closed : Json}
  {members named node : List (String × Json)} {items : List Json}

/-! ## The way of closing -/

/-- The schemas that a member of an object leads to. -/
def followed (key : String) (value : Json) : List Json :=
  match followOf key, value with
  | .properties, .obj named => named.map (·.2)
  | .schemas, .arr items | .list, .arr items => items
  | .schemas, value | .schema, value => [value]
  | _, _ => []

/-- Closing goes on from a schema to another. -/
def Leads (document child : Json) : Prop :=
  ∃ members, document = .obj members ∧ ∃ m ∈ members, child ∈ followed m.1 m.2

/-- Closing reaches a schema of a document. -/
def Reaches (document : Json) (node : List (String × Json)) : Prop :=
  ReflTransGen Leads document (.obj node)

/-- How closing treats the value of a member, and the schemas that it leads to. -/
inductive Closing : Json → Except Fault Json → List Json → Prop where
  /-- The values are schemas under names. -/
  | named (named : List (String × Json)) :
    Closing (.obj named) ((closeNamed named).map .obj) (named.map (·.2))
  /-- The items are schemas. -/
  | items (items : List Json) : Closing (.arr items) ((closeItems items).map .arr) items
  /-- The value is a schema. -/
  | schema (value : Json) : Closing value (close value) [value]
  /-- The value leads nowhere. -/
  | ignore (value : Json) : Closing value (.ok value) []
  /-- The value ought to hold schemas under names. -/
  | odd (value : Json) : Closing value (.error .oddProperties) []

lemma closing (key : String) (value : Json) :
    Closing value (closeMember key value) (followed key value) := by
  unfold closeMember followed
  cases followOf key with
  | properties =>
    cases value with
    | obj named => exact .named named
    | _ =>
      dsimp only
      split
      · exact .ignore _
      · exact .odd _
  | schemas =>
    cases value with
    | arr items => exact .items items
    | _ => exact .schema _
  | list =>
    cases value with
    | arr items => exact .items items
    | _ => exact .ignore _
  | schema => exact .schema value
  | ignore => exact .ignore value

lemma sizeOf_followed_le (h : child ∈ followed key value) : sizeOf child ≤ sizeOf value := by
  have hclosing := closing key value
  generalize closeMember key value = result at hclosing
  generalize followed key value = schemas at h hclosing
  cases hclosing with
  | named named =>
    obtain ⟨p, hp, rfl⟩ := List.mem_map.1 h
    exact Nat.le_of_lt (Json.sizeOf_member_lt hp)
  | items items => exact Nat.le_of_lt (Json.sizeOf_item_lt h)
  | schema value => exact Nat.le_of_eq (congrArg sizeOf (List.mem_singleton.1 h))
  | ignore value => exact absurd h List.not_mem_nil
  | odd value => exact absurd h List.not_mem_nil

lemma Leads.exists_obj (h : Leads document child) : ∃ members, document = .obj members := by
  obtain ⟨members, heq, -⟩ := h
  exact ⟨members, heq⟩

lemma Leads.sizeOf_lt (h : Leads document child) : sizeOf child < sizeOf document := by
  obtain ⟨members, rfl, m, hm, hchild⟩ := h
  exact Nat.lt_of_le_of_lt (sizeOf_followed_le hchild) (Json.sizeOf_member_lt hm)

lemma leads_of_looks (h : Looks document child) : Leads document child := by
  cases h with
  | property htype hproperties h =>
    have hmem := Entries.mem_of_get? (properties?_eq_some_iff.1 hproperties)
    exact ⟨_, rfl, _, hmem, List.mem_map_of_mem h⟩
  | items htype hitems hconcrete =>
    cases child with
    | obj inner => exact ⟨_, rfl, _, Entries.mem_of_get? hitems, List.mem_cons_self⟩
    | _ => exact absurd hconcrete Bool.false_ne_true

/-- Closing reaches every schema that the strict check examines. -/
theorem reaches_of_examined (h : Examined document node) : Reaches document node :=
  ReflTransGen.mono (fun _ _ => leads_of_looks) _ _ h

/-! ## Single steps -/

/-- A member can be closed only if the schemas it leads to can be. -/
lemma exists_close_followed (h : closeMember key value = .ok left) :
    ∀ child ∈ followed key value, ∃ closed, close child = .ok closed := by
  have hclosing := closing key value
  rw [h] at hclosing
  generalize hresult : Except.ok left = result at hclosing
  generalize followed key value = schemas at hclosing
  cases hclosing with
  | named named =>
    obtain ⟨kept, hkept, -⟩ := Except.map_eq_ok.1 hresult.symm
    rw [closeNamed_eq_mapM] at hkept
    intro child hchild
    obtain ⟨p, hp, rfl⟩ := List.mem_map.1 hchild
    obtain ⟨_, hclose⟩ := Except.exists_mapM_iff.1 ⟨_, hkept⟩ p hp
    obtain ⟨closed, hclosed, -⟩ := Except.map_eq_ok.1 hclose
    exact ⟨closed, hclosed⟩
  | items items =>
    obtain ⟨kept, hkept, -⟩ := Except.map_eq_ok.1 hresult.symm
    rw [closeItems_eq_mapM] at hkept
    exact Except.exists_mapM_iff.1 ⟨_, hkept⟩
  | schema value => exact List.forall_mem_singleton.2 ⟨left, hresult.symm⟩
  | ignore value => exact fun _ h => absurd h List.not_mem_nil
  | odd value => exact nomatch hresult

/-- A member that can be closed stays as it is exactly if the schemas it leads to do. -/
lemma closeMember_eq_self_iff (h : closeMember key value = .ok left) :
    closeMember key value = .ok value ↔
      ∀ child ∈ followed key value, close child = .ok child := by
  have hclosing := closing key value
  generalize closeMember key value = result at h hclosing
  generalize followed key value = schemas at hclosing
  cases hclosing with
  | named named =>
    rw [List.forall_mem_map, ← closeNamed_eq_self_iff, Except.map_eq_ok]
    constructor
    · rintro ⟨kept, hkept, heq⟩
      rw [hkept, Json.obj.inj heq]
    · exact fun h => ⟨_, h, rfl⟩
  | items items =>
    rw [← closeItems_eq_self_iff, Except.map_eq_ok]
    constructor
    · rintro ⟨kept, hkept, heq⟩
      rw [hkept, Json.arr.inj heq]
    · exact fun h => ⟨_, h, rfl⟩
  | schema value => rw [List.forall_mem_singleton]
  | ignore value => exact iff_of_true rfl fun _ h => absurd h List.not_mem_nil
  | odd value => exact nomatch h

/-! ## Documents -/

lemma exists_closeMember (h : close (.obj members) = .ok closed) :
    ∀ m ∈ members, ∃ left, closeMember m.1 m.2 = .ok left := by
  unfold close at h
  obtain ⟨others, hothers, -⟩ := Except.bind_eq_ok.1 h
  rw [closeMembers_eq_mapM] at hothers
  intro m hm
  obtain ⟨_, hmember⟩ := Except.exists_mapM_iff.1 ⟨_, hothers⟩ m hm
  obtain ⟨left, hleft, -⟩ := Except.map_eq_ok.1 hmember
  exact ⟨left, hleft⟩

/-- A schema can be closed only if the schemas it leads to can be. -/
lemma exists_close_of_leads (h : close document = .ok closed) (hleads : Leads document child) :
    ∃ closed, close child = .ok closed := by
  obtain ⟨members, rfl, m, hm, hchild⟩ := hleads
  obtain ⟨left, hleft⟩ := exists_closeMember h m hm
  exact exists_close_followed hleft child hchild

/-- A schema that can be closed stays as it is exactly if it is settled and the schemas it leads to
stay as they are. -/
lemma close_obj_eq_self_iff_leads (h : close (.obj members) = .ok closed) :
    close (.obj members) = .ok (.obj members) ↔
      Settled members ∧ ∀ child, Leads (.obj members) child → close child = .ok child := by
  rw [close_obj_eq_self_iff, and_comm]
  refine and_congr_right fun _ => ?_
  constructor
  · rintro hself child ⟨_, heq, m, hm, hchild⟩
    rw [← Json.obj.inj heq] at hm
    exact (closeMember_eq_self_iff (hself m hm)).1 (hself m hm) child hchild
  · intro hchildren m hm
    obtain ⟨left, hleft⟩ := exists_closeMember h m hm
    exact (closeMember_eq_self_iff hleft).2 fun child hchild =>
      hchildren child ⟨members, rfl, m, hm, hchild⟩

/-- A document that can be closed stays as it is exactly if every object schema that closing reaches
says something about additional properties. -/
theorem close_eq_self_iff (h : close document = .ok closed) :
    close document = .ok document ↔ ∀ node, Reaches document node → Settled node := by
  -- by size: what is reached is the schema itself or is reached from one that it leads to
  induction document using Json.induction_on_size generalizing closed with
  | h document ih =>
    by_cases hobj : ∃ members, document = .obj members
    · obtain ⟨members, rfl⟩ := hobj
      have hbelow : ∀ child, Leads (.obj members) child →
          (close child = .ok child ↔ ∀ node, Reaches child node → Settled node) := by
        intro child hleads
        obtain ⟨closed, hclosed⟩ := exists_close_of_leads h hleads
        exact ih child hleads.sizeOf_lt hclosed
      unfold Reaches at hbelow ⊢
      rw [close_obj_eq_self_iff_leads h, Json.forall_reached_iff]
      exact and_congr_right fun _ => forall₂_congr hbelow
    · refine iff_of_true ?_ fun node hreaches => ?_
      · cases document with
        | obj members => exact absurd ⟨members, rfl⟩ hobj
        | _ =>
          unfold close
          rfl
      · exact absurd hreaches (Json.not_reached hobj (fun _ hleads => hleads.exists_obj) node)

lemma settled_of_inOrder (h : InOrder node) : Settled node := by
  intro hobject
  have htype : typeOf node = some "object" := by
    unfold isObjectSchema at hobject
    split at hobject
    · rename_i t hget
      unfold typeOf
      rw [hget, eq_of_beq hobject]
    · exact absurd hobject Bool.false_ne_true
  have hclosed := h.closed htype
  unfold isClosed at hclosed
  unfold Entries.has
  split at hclosed
  · rename_i hget
    rw [hget]
    rfl
  · exact absurd hclosed Bool.false_ne_true

/-- A usable document that can be closed stays as it is exactly if the object schemas that closing
reaches and the strict check does not examine say something about additional properties. -/
theorem close_usable_eq_self_iff (husable : problems document = .ok [])
    (hclose : close document = .ok closed) :
    closed = document ↔
      ∀ node, Reaches document node → ¬ Examined document node → Settled node := by
  have hinOrder := (problemsAt_eq_nil_iff _ _).1 (problemsAt_of_problems_eq_nil husable)
  have hself : closed = document ↔ close document = .ok document := by
    rw [hclose]
    exact ⟨congrArg _, Except.ok.inj⟩
  rw [hself, close_eq_self_iff hclose]
  constructor
  · exact fun h node hreaches _ => h node hreaches
  · intro h node hreaches
    by_cases hexamined : Examined document node
    · exact settled_of_inOrder (hinOrder node hexamined)
    · exact h node hreaches hexamined

/-- An open object schema in a combinator is closed, though the strict check, which passes over it,
finds nothing wrong with the document. -/
theorem close_usable_combinator :
    let document := Json.obj [("type", .str "object"),
      ("properties", .obj [("c", .obj [("anyOf",
        .arr [.obj [("type", .str "object"), ("properties", .obj [])],
          .obj [("type", .str "string")]])])]),
      ("additionalProperties", .bool false)]
    problems document = .ok [] ∧ close document ≠ .ok document := by
  intro document
  refine ⟨rfl, fun hclose => ?_⟩
  have hreaches : Reaches document [("type", .str "object"), ("properties", .obj [])] :=
    .head ⟨_, rfl, _, List.mem_cons_of_mem _ List.mem_cons_self, List.mem_cons_self⟩ <|
      .head ⟨_, rfl, _, List.mem_cons_self, List.mem_cons_self⟩ .refl
  have hsettled := (close_eq_self_iff hclose).1 hclose _ hreaches
  exact absurd (hsettled rfl) (by decide)

end SlideContract.Edit
