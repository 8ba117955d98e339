import Mathlib.Logic.Relation
import SlideContract.Proofs.Document.Usable
import SlideContract.Proofs.Json.Part
import SlideContract.Proofs.Run

/-!
# What the strict check examines

The strict check goes from object schemas to their properties and from array schemas to their items,
and looks at nothing else. What it finds in a document is what it finds in the schemas that it
examines on this way, one by one.

* `Looks`, `Examined`: the way of the check through a document;
* `ends_problemsAt_iff`: the check as a whole, and in the schemas it examines;
* `exists_problemsAt_iff`: when the check goes through;
* `problemsAt_eq_nil_iff`: when it finds nothing.
-/

namespace SlideContract.Schema.Strict
open Relation Document

variable {members properties node : List (String × Json)} {location : String}
  {document child required : Json} {items : List Json}

/-- The strict check goes on from a schema to another. -/
inductive Looks : Json → Json → Prop where
  | property {members properties : List (String × Json)} {name : String} {child : Json}
    (htype : typeOf members = some "object") (hproperties : properties? members = some properties)
    (h : (name, child) ∈ properties) : Looks (.obj members) child
  | items {members : List (String × Json)} {child : Json} (htype : typeOf members = some "array")
    (hitems : Entries.get? "items" members = some child) (hconcrete : isConcrete child = true) :
    Looks (.obj members) child

/-- The strict check examines a schema of a document. -/
def Examined (document : Json) (members : List (String × Json)) : Prop :=
  ReflTransGen Looks document (.obj members)

lemma properties?_eq_some_iff :
    properties? members = some properties ↔
      Entries.get? "properties" members = some (.obj properties) := by
  unfold properties?
  rw [Option.bind_eq_some_iff]
  constructor
  · rintro ⟨value, hget, hmembers⟩
    cases value with
    | obj inner => rw [hget, Option.some.inj hmembers]
    | _ => cases hmembers
  · exact fun h => ⟨.obj properties, h, rfl⟩

lemma Looks.exists_obj (h : Looks document child) : ∃ members, document = .obj members := by
  cases h <;> exact ⟨_, rfl⟩

lemma Looks.sizeOf_lt (h : Looks document child) : sizeOf child < sizeOf document := by
  cases h with
  | property htype hproperties h =>
    have hmem := Entries.mem_of_get? (properties?_eq_some_iff.1 hproperties)
    exact Nat.lt_trans (Json.sizeOf_member_lt h) (Json.sizeOf_member_lt hmem)
  | items htype hitems hconcrete => exact Json.sizeOf_member_lt (Entries.mem_of_get? hitems)

/-! ## The check and its parts -/

/-- What the check finds in a schema itself. -/
def ownProblems (location : String) (members : List (String × Json)) :
    Except Fault (List String) :=
  match typeOf members with
  | some "object" => objectProblems location members
  | some "array" => .ok (arrayProblems location members)
  | _ => .ok []

/-- The schemas that the check goes on to, with their locations. -/
def next (location : String) (members : List (String × Json)) : List (String × Json) :=
  match typeOf members with
  | some "object" =>
    ((properties? members).getD []).map fun p => (location ++ "." ++ p.1, p.2)
  | some "array" =>
    ((Entries.get? "items" members).toList.filter isConcrete).map (location ++ "[]", ·)
  | _ => []

/-- What the check finds in several schemas, one after the other. -/
def problemsOfAll : List (String × Json) → Except Fault (List String)
  | [] => .ok []
  | (location, schema) :: rest => do
    return (← problemsAt location schema) ++ (← problemsOfAll rest)

lemma problemsOfNamed_eq (location : String) (properties : List (String × Json)) :
    problemsOfNamed location properties
      = problemsOfAll (properties.map fun p => (location ++ "." ++ p.1, p.2)) := by
  induction properties with
  | nil =>
    rw [problemsOfNamed]
    rfl
  | cons p rest ih =>
    obtain ⟨name, value⟩ := p
    rw [problemsOfNamed, ih]
    rfl

lemma problemsOfAll_singleton (location : String) (schema : Json) :
    problemsOfAll [(location, schema)] = problemsAt location schema := by
  unfold problemsOfAll problemsOfAll
  cases problemsAt location schema with
  | error fault => rfl
  | ok found => exact congrArg Except.ok (List.append_nil found)

lemma problemsOfProperties_all (location : String) (members : List (String × Json)) :
    problemsOfProperties location members
      = problemsOfAll (((properties? members).getD []).map fun p =>
          (location ++ "." ++ p.1, p.2)) := by
  rw [problemsOfProperties_eq, ← problemsOfNamed_eq]
  unfold properties?
  cases Entries.get? "properties" members with
  | none =>
    show _ = problemsOfNamed location []
    rw [problemsOfNamed]
  | some value =>
    cases value with
    | obj properties => rfl
    | _ =>
      show _ = problemsOfNamed location []
      rw [problemsOfNamed]

lemma problemsOfItems_all (location : String) (members : List (String × Json)) :
    problemsOfItems location members
      = problemsOfAll (((Entries.get? "items" members).toList.filter isConcrete).map
          (location ++ "[]", ·)) := by
  rw [problemsOfItems_eq]
  cases Entries.get? "items" members with
  | none => rfl
  | some items =>
    rw [Option.toList_some, List.filter_singleton]
    show (if isConcrete items then problemsAt (location ++ "[]") items else .ok []) = _
    cases isConcrete items with
    | true => exact (problemsOfAll_singleton _ _).symm
    | false => rfl

/-- The check finds what it finds in the schema itself and in those it goes on to. -/
lemma problemsAt_obj (location : String) (members : List (String × Json)) :
    problemsAt location (.obj members) = do
      return (← ownProblems location members) ++ (← problemsOfAll (next location members)) := by
  by_cases hobject : typeOf members = some "object"
  · unfold problemsAt ownProblems next
    rw [hobject, problemsOfProperties_all]
    rfl
  by_cases harray : typeOf members = some "array"
  · unfold problemsAt ownProblems next
    rw [harray, problemsOfItems_all]
    rfl
  -- a schema of another type has no problems of its own, and the check goes no further
  have hown : ownProblems location members = .ok [] := by
    unfold ownProblems
    split
    · exact absurd ‹_› hobject
    · exact absurd ‹_› harray
    · rfl
  have hnext : next location members = [] := by
    unfold next
    split
    · exact absurd ‹_› hobject
    · exact absurd ‹_› harray
    · rfl
  rw [hown, hnext]
  unfold problemsAt
  split
  · exact absurd ‹_› hobject
  · exact absurd ‹_› harray
  · rfl

/-- The check goes on to a schema at some location. -/
lemma looks_iff {location : String} :
    Looks (.obj members) child ↔ ∃ below, (below, child) ∈ next location members := by
  constructor
  · intro h
    cases h with
    | property htype hproperties h =>
      unfold next
      rw [htype, hproperties]
      exact ⟨_, List.mem_map.2 ⟨_, h, rfl⟩⟩
    | items htype hitems hconcrete =>
      unfold next
      rw [htype, hitems]
      exact ⟨_, List.mem_map.2 ⟨_, List.mem_filter.2 ⟨List.mem_cons_self, hconcrete⟩, rfl⟩⟩
  · rintro ⟨below, h⟩
    unfold next at h
    split at h
    · rename_i htype
      obtain ⟨p, hp, heq⟩ := List.mem_map.1 h
      rw [← (Prod.mk.inj heq).2]
      cases hproperties : properties? members with
      | none =>
        rw [hproperties] at hp
        exact absurd hp List.not_mem_nil
      | some properties =>
        rw [hproperties] at hp
        exact .property htype hproperties hp
    · rename_i htype
      obtain ⟨items, hitems, heq⟩ := List.mem_map.1 h
      obtain ⟨hget, hconcrete⟩ := List.mem_filter.1 hitems
      rw [← (Prod.mk.inj heq).2]
      exact .items htype (Option.mem_toList.1 hget) hconcrete
    · exact absurd h List.not_mem_nil

/-! ## Documents and their schemas -/

/-- A check goes through, and what it finds is as wanted. -/
def Ends (Wanted : List String → Prop) (result : Except Fault (List String)) : Prop :=
  ∃ found, result = .ok found ∧ Wanted found

section Ends

variable {Wanted : List String → Prop} (hnil : Wanted [])
  (happend : ∀ a b, Wanted (a ++ b) ↔ Wanted a ∧ Wanted b)

include happend in
lemma ends_append {first second : Except Fault (List String)} :
    Ends Wanted (do return (← first) ++ (← second)) ↔ Ends Wanted first ∧ Ends Wanted second := by
  constructor
  · rintro ⟨found, h, hwanted⟩
    obtain ⟨a, ha, h⟩ := Except.bind_eq_ok.1 h
    obtain ⟨b, hb, h⟩ := Except.bind_eq_ok.1 h
    rw [← Except.ok.inj h, happend] at hwanted
    exact ⟨⟨a, ha, hwanted.1⟩, b, hb, hwanted.2⟩
  · rintro ⟨⟨a, rfl, ha⟩, b, rfl, hb⟩
    exact ⟨a ++ b, rfl, (happend a b).2 ⟨ha, hb⟩⟩

include hnil happend

lemma ends_problemsOfAll {schemas : List (String × Json)} :
    Ends Wanted (problemsOfAll schemas) ↔
      ∀ p ∈ schemas, Ends Wanted (problemsAt p.1 p.2) := by
  induction schemas with
  | nil => exact iff_of_true ⟨[], rfl, hnil⟩ fun _ h => absurd h List.not_mem_nil
  | cons p rest ih =>
    obtain ⟨location, schema⟩ := p
    rw [problemsOfAll, ends_append happend, List.forall_mem_cons, ih]

/-- If what is found in a schema itself is as wanted where the schema is fine, what is found in a
document is as wanted where all the schemas that are examined in it are fine. -/
theorem ends_problemsAt_iff {Fine : List (String × Json) → Prop}
    (hown : ∀ location members, Ends Wanted (ownProblems location members) ↔ Fine members)
    (location : String) (document : Json) :
    Ends Wanted (problemsAt location document) ↔ ∀ node, Examined document node → Fine node := by
  -- by size: the check goes on to parts only, and what is reached is the schema or is reached
  -- from one of them
  induction document using Json.induction_on_size generalizing location with
  | h document ih =>
    by_cases hobj : ∃ members, document = .obj members
    · obtain ⟨members, rfl⟩ := hobj
      have hnext : (∀ p ∈ next location members, Ends Wanted (problemsAt p.1 p.2)) ↔
          ∀ child, Looks (.obj members) child → ∀ node, Examined child node → Fine node := by
        constructor
        · intro h child hlooks
          obtain ⟨below, hbelow⟩ : ∃ below, (below, child) ∈ next location members :=
            looks_iff.1 hlooks
          exact (ih child hlooks.sizeOf_lt below).1 (h _ hbelow)
        · rintro h ⟨below, child⟩ hbelow
          have hlooks := looks_iff.2 ⟨below, hbelow⟩
          exact (ih child hlooks.sizeOf_lt below).2 (h child hlooks)
      rw [problemsAt_obj, ends_append happend, hown, ends_problemsOfAll hnil happend, hnext]
      exact Json.forall_reached_iff.symm
    · refine iff_of_true ⟨[], ?_, hnil⟩ fun node hexamined => ?_
      · cases document with
        | obj members => exact absurd ⟨members, rfl⟩ hobj
        | _ =>
          unfold problemsAt
          rfl
      · exact absurd hexamined (Json.not_reached hobj (fun _ hlooks => hlooks.exists_obj) node)

end Ends

/-! ## Single schemas -/

/-- The required name is one of the properties. -/
def isDefined (properties : List (String × Json)) : Json → Bool
  | .str name => Entries.has name properties
  | _ => false

/-- The names that are not among the properties are listed if none of them is a list or an
object. -/
lemma undefinedNames_eq_ok_iff {names undefined : List Json} :
    undefinedNames properties names = .ok undefined ↔
      (∀ name ∈ names, name.IsScalar) ∧
        undefined = names.filter fun name => !isDefined properties name := by
  -- along the names: the first that is a list or an object ends the listing with a fault
  induction names generalizing undefined with
  | nil => simp [undefinedNames, eq_comm]
  | cons name rest ih =>
    by_cases hscalar : name.IsScalar
    · have hname : Keyword.hasName properties name = .ok (isDefined properties name) := by
        cases name with
        | arr items => exact hscalar.elim
        | obj members => exact hscalar.elim
        | _ => rfl
      have hstep : undefinedNames properties (name :: rest)
          = (undefinedNames properties rest).map fun others =>
            if isDefined properties name then others else name :: others := by
        rw [undefinedNames, hname]
        cases undefinedNames properties rest <;> rfl
      rw [hstep, Except.map_eq_ok, List.forall_mem_cons, List.filter_cons]
      constructor
      · rintro ⟨others, hothers, rfl⟩
        obtain ⟨hrest, rfl⟩ := ih.1 hothers
        exact ⟨⟨hscalar, hrest⟩, by cases isDefined properties name <;> rfl⟩
      · rintro ⟨⟨-, hrest⟩, rfl⟩
        exact ⟨_, ih.2 ⟨hrest, rfl⟩, by cases isDefined properties name <;> rfl⟩
    · have hfault : undefinedNames properties (name :: rest) = .error .wrongOperand := by
        cases name with
        | arr items => rfl
        | obj members => rfl
        | _ => exact absurd trivial hscalar
      rw [hfault]
      exact iff_of_false (by rintro ⟨⟩) fun h => hscalar (h.1 name List.mem_cons_self)

/-- The problems of an object schema come from its names, once these can be gone through. -/
lemma objectProblems_eq_ok_iff {found : List String} :
    objectProblems location members = .ok found ↔
      ∃ names, Keyword.parts ((Entries.get? "required" members).getD (.arr [])) = .ok names ∧
        (∀ name ∈ names, name.IsScalar) ∧
        found = (if isClosed members then []
            else [location ++ ": object is not closed (additionalProperties)"]) ++
          (if (properties? members).isSome then []
            else [location ++ ": object has no properties"]) ++
          (names.filter fun name => !isDefined ((properties? members).getD []) name).map fun name =>
            location ++ ": required property '" ++ name.plain ++ "' is not defined" := by
  unfold objectProblems
  constructor
  · intro h
    obtain ⟨names, hnames, h⟩ := Except.bind_eq_ok.1 h
    obtain ⟨undefined, hundefined, h⟩ := Except.bind_eq_ok.1 h
    obtain ⟨hscalar, rfl⟩ := undefinedNames_eq_ok_iff.1 hundefined
    exact ⟨names, hnames, hscalar, (Except.ok.inj h).symm⟩
  · rintro ⟨names, hnames, hscalar, rfl⟩
    rw [hnames]
    show (undefinedNames ((properties? members).getD []) names >>= _) = _
    rw [undefinedNames_eq_ok_iff.2 ⟨hscalar, rfl⟩]
    rfl

/-- What stands for required names can be gone through, and no list or object is met. -/
def ListsNames : Json → Prop
  | .arr items => ∀ item ∈ items, item.IsScalar
  | .str _ | .obj _ => True
  | _ => False

/-- The required names of an object schema, if it has any, can be gone through. -/
def HasNames (members : List (String × Json)) : Prop :=
  typeOf members = some "object" →
    ∀ required, Entries.get? "required" members = some required → ListsNames required

lemma exists_parts_iff :
    (∃ names, Keyword.parts required = .ok names ∧ ∀ name ∈ names, name.IsScalar) ↔
      ListsNames required := by
  have hstrings : ∀ texts : List String, ∀ name ∈ texts.map Json.str, name.IsScalar := by
    intro texts name hname
    obtain ⟨text, -, rfl⟩ := List.mem_map.1 hname
    exact trivial
  cases required with
  | arr items =>
    exact ⟨fun ⟨_, heq, h⟩ => Except.ok.inj heq ▸ h, fun h => ⟨items, rfl, h⟩⟩
  | str s =>
    refine iff_of_true ⟨_, rfl, fun name hname => ?_⟩ trivial
    obtain ⟨c, -, rfl⟩ := List.mem_map.1 hname
    exact trivial
  | obj members => exact iff_of_true ⟨_, rfl, hstrings _⟩ trivial
  | _ => exact iff_of_false (fun ⟨_, heq, _⟩ => nomatch heq) id

lemma exists_ownProblems_iff :
    (∃ found, ownProblems location members = .ok found) ↔ HasNames members := by
  unfold ownProblems HasNames
  split
  · rename_i htype
    have hlists : (∃ found, objectProblems location members = .ok found) ↔
        ListsNames ((Entries.get? "required" members).getD (.arr [])) := by
      rw [← exists_parts_iff]
      constructor
      · rintro ⟨found, h⟩
        obtain ⟨names, hnames, hscalar, -⟩ := objectProblems_eq_ok_iff.1 h
        exact ⟨names, hnames, hscalar⟩
      · rintro ⟨names, hnames, hscalar⟩
        exact ⟨_, objectProblems_eq_ok_iff.2 ⟨names, hnames, hscalar, rfl⟩⟩
    rw [hlists]
    cases Entries.get? "required" members with
    | none => exact iff_of_true (fun _ h => absurd h List.not_mem_nil) fun _ _ => nofun
    | some required =>
      exact ⟨fun h _ _ heq => Option.some.inj heq ▸ h, fun h => h htype required rfl⟩
  · rename_i htype
    exact iff_of_true ⟨_, rfl⟩ fun hobject => absurd (htype.symm.trans hobject) (by decide)
  · rename_i hobject _
    exact iff_of_true ⟨_, rfl⟩ fun htype => (hobject htype).elim

/-- The check goes through exactly if the required names of every object schema that it examines
can be gone through. -/
theorem exists_problemsAt_iff (location : String) (document : Json) :
    (∃ found, problemsAt location document = .ok found) ↔
      ∀ node, Examined document node → HasNames node := by
  have hown : ∀ location members,
      Ends (fun _ => True) (ownProblems location members) ↔ HasNames members := by
    intro location members
    unfold Ends
    simpa using exists_ownProblems_iff
  have hends := ends_problemsAt_iff trivial (fun _ _ => (and_self_iff).symm) hown location document
  unfold Ends at hends
  simpa using hends

/-- Nothing is wrong with a schema itself: an object schema is closed and has properties, among them
all that it requires, and the items of an array schema state a type. -/
structure InOrder (members : List (String × Json)) : Prop where
  closed : typeOf members = some "object" → isClosed members = true
  defined : typeOf members = some "object" → ∃ properties names,
    properties? members = some properties ∧
      Keyword.parts ((Entries.get? "required" members).getD (.arr [])) = .ok names ∧
      ∀ name ∈ names, isDefined properties name = true
  items : typeOf members = some "array" → (Entries.get? "items" members).any isConcrete = true

lemma isScalar_of_isDefined {name : Json} (h : isDefined properties name = true) :
    name.IsScalar := by
  cases name with
  | str name => exact trivial
  | _ => exact absurd h Bool.false_ne_true

lemma objectProblems_eq_nil_iff :
    objectProblems location members = .ok [] ↔
      isClosed members = true ∧ ∃ properties names, properties? members = some properties ∧
        Keyword.parts ((Entries.get? "required" members).getD (.arr [])) = .ok names ∧
        ∀ name ∈ names, isDefined properties name = true := by
  rw [objectProblems_eq_ok_iff]
  constructor
  · rintro ⟨names, hnames, hscalar, hfound⟩
    obtain ⟨hfirst, hundefined⟩ := List.append_eq_nil_iff.1 hfound.symm
    obtain ⟨hclosed, hpresent⟩ := List.append_eq_nil_iff.1 hfirst
    have hundefined := List.filter_eq_nil_iff.1 (List.map_eq_nil_iff.1 hundefined)
    refine ⟨by simpa using hclosed, ?_⟩
    cases hproperties : properties? members with
    | none => simp [hproperties] at hpresent
    | some properties =>
      rw [hproperties] at hundefined
      exact ⟨properties, names, rfl, hnames, fun name hname => by simpa using hundefined name hname⟩
  · rintro ⟨hclosed, properties, names, hproperties, hnames, hdefined⟩
    refine ⟨names, hnames, fun name hname => isScalar_of_isDefined (hdefined name hname), ?_⟩
    have hundefined : (names.filter fun name => !isDefined properties name) = [] :=
      List.filter_eq_nil_iff.2 fun name hname => by simp [hdefined name hname]
    rw [hclosed, hproperties, Option.getD_some, hundefined]
    rfl

lemma ownProblems_eq_nil_iff : ownProblems location members = .ok [] ↔ InOrder members := by
  unfold ownProblems
  -- objects, lists and all other schemas have requirements of their own
  split
  · rename_i htype
    rw [objectProblems_eq_nil_iff]
    constructor
    · rintro ⟨hclosed, hdefined⟩
      exact ⟨fun _ => hclosed, fun _ => hdefined, fun harray => nomatch htype.symm.trans harray⟩
    · intro h
      exact ⟨h.closed htype, h.defined htype⟩
  · rename_i htype
    have hobject : typeOf members ≠ some "object" := by
      rw [htype]
      decide
    unfold arrayProblems
    constructor
    · intro h
      refine ⟨fun h => absurd h hobject, fun h => absurd h hobject, fun _ => ?_⟩
      have hnil := Except.ok.inj h
      by_contra hitems
      rw [if_neg hitems] at hnil
      exact absurd hnil (List.cons_ne_nil _ _)
    · intro h
      rw [if_pos (h.items htype)]
  · rename_i hobject harray
    exact iff_of_true rfl ⟨fun h => (hobject h).elim, fun h => (hobject h).elim,
      fun h => (harray h).elim⟩

/-- The check finds nothing exactly if every schema that it examines is in order. -/
theorem problemsAt_eq_nil_iff (location : String) (document : Json) :
    problemsAt location document = .ok [] ↔ ∀ node, Examined document node → InOrder node := by
  have hown : ∀ location members,
      Ends (· = []) (ownProblems location members) ↔ InOrder members := by
    intro location members
    unfold Ends
    simpa using ownProblems_eq_nil_iff
  have hends := ends_problemsAt_iff (by rfl) (fun _ _ => by exact List.append_eq_nil_iff) hown
    location document
  unfold Ends at hends
  simpa using hends

end SlideContract.Schema.Strict
