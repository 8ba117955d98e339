import Mathlib.Data.List.Lattice
import SlideContract.Proofs.Edit.Removal

/-!
# What removing fields visits

Removing fields visits the objects of a document through all of their members but the required
names, where the properties are visited by name. Every object that is visited in the result is what
is left of one that is visited in the document, so that what the removal does to a single object is
true of all of them.

* `Visits`: what removing fields visits in a document;
* `exists_prune`: removing fields succeeds where the required names are scalars;
* `Leaves`: what is left of a member of an object;
* `Visits.of_prune`: the objects of the result;
* `prune_union`: the laws of removal.
-/

namespace SlideContract.Edit

variable {fields : List String} {name : String} {value left : Json}
  {members properties kept : List (String × Json)} {items names : List Json}

/-! ## What is visited -/

/-- Removing fields visits a part of a document. The properties that are removed are gone before
their schemas are visited, and required names are no schemas. -/
inductive Visits (fields : List String) (part : Json) : Json → Prop where
  | self : Visits fields part part
  | item {item : Json} {items : List Json} (hitem : item ∈ items)
    (h : Visits fields part item) : Visits fields part (.arr items)
  | property {name : String} {value : Json} {members properties : List (String × Json)}
    (hmember : ("properties", .obj properties) ∈ members) (hvalue : (name, value) ∈ properties)
    (hname : name ∉ fields) (h : Visits fields part value) : Visits fields part (.obj members)
  | member {name : String} {value : Json} {members : List (String × Json)}
    (hmember : (name, value) ∈ members) (hrequired : name ≠ "required")
    (hproperties : ∀ properties, (name, value) ≠ ("properties", .obj properties))
    (h : Visits fields part value) : Visits fields part (.obj members)

/-- The required names that an object lists are scalars. -/
def HasScalarNames (members : List (String × Json)) : Prop :=
  ∀ items, ("required", .arr items) ∈ members → ∀ item ∈ items, item.IsScalar

/-! ## Documents without faults -/

lemma exists_pruneMembers (h : ∀ m ∈ members, ∃ kept, pruneMember fields m.1 m.2 = .ok kept) :
    ∃ kept, pruneMembers fields members = .ok kept := by
  induction members with
  | nil =>
    rw [pruneMembers]
    exact ⟨[], rfl⟩
  | cons member rest ih =>
    obtain ⟨name, value⟩ := member
    obtain ⟨kept, hkept⟩ := h (name, value) List.mem_cons_self
    obtain ⟨more, hmore⟩ := ih fun m hm => h m (List.mem_cons_of_mem _ hm)
    rw [pruneMembers_cons, hkept, hmore]
    exact ⟨kept ++ more, rfl⟩

/-- Removing fields succeeds if no required names are lists or objects. -/
theorem exists_prune (fields : List String) {document : Json}
    (h : ∀ node, Visits [] (.obj node) document → HasScalarNames node) :
    ∃ left, prune fields document = .ok left := by
  -- by size: removal fails only at names that are not texts, and every part it looks into is
  -- visited as well
  induction document using Json.induction_on_size with
  | h document ih =>
    cases document with
    | arr items =>
      have hitems : ∀ item ∈ items, ∃ left, prune fields item = .ok left := fun item hitem =>
        ih item (Json.sizeOf_item_lt hitem) fun node hnode => h node (.item hitem hnode)
      obtain ⟨lefts, hlefts⟩ := Except.exists_mapM_iff.2 hitems
      rw [← pruneItems_eq_mapM] at hlefts
      exact ⟨_, prune_eq_arr_iff.2 ⟨items, rfl, hlefts⟩⟩
    | obj members =>
      suffices hmembers : ∀ m ∈ members, ∃ kept, pruneMember fields m.1 m.2 = .ok kept by
        obtain ⟨kept, hkept⟩ := exists_pruneMembers hmembers
        exact ⟨_, prune_eq_obj_iff.2 ⟨members, rfl, hkept⟩⟩
      rintro ⟨name, value⟩ hm
      have hlt := Json.sizeOf_member_lt hm
      cases treatment name value with
      | properties properties =>
        obtain ⟨kept, hkept, -⟩ := exists_pruneProperties (R := fun _ _ => True) fun p hp => by
          obtain ⟨left, hleft⟩ := ih p.2 (Nat.lt_trans (Json.sizeOf_member_lt hp) hlt)
            fun node hnode => h node (.property hm hp List.not_mem_nil hnode)
          exact ⟨left, hleft, trivial⟩
        exact ⟨_, by rw [pruneMember_properties, hkept]; rfl⟩
      | names items =>
        have hnames : keepRequired fields items = .ok (items.filter (keepsItem fields)) :=
          keepRequired_eq_ok_iff.2 ⟨h members .self items hm, rfl⟩
        exact ⟨_, by rw [pruneMember_names, hnames]; rfl⟩
      | skip hskip => exact ⟨_, pruneMember_skip fields hskip⟩
      | search hrequired hsearch =>
        obtain ⟨left, hleft⟩ := ih value hlt
          fun node hnode => h node (.member hm hrequired hsearch hnode)
        exact ⟨_, by rw [pruneMember_search fields hrequired hsearch, hleft]; rfl⟩
    | _ =>
      unfold prune
      exact ⟨_, rfl⟩

/-! ## Objects of the result -/

/-- The second member is what is left of the first. -/
inductive Leaves (fields : List String) : String × Json → String × Json → Prop where
  | properties {properties kept : List (String × Json)}
    (h : Survive fields (fun schema left => prune fields schema = .ok left) properties kept) :
    Leaves fields ("properties", .obj properties) ("properties", .obj kept)
  | names {items : List Json} (h : items.filter (keepsItem fields) ≠ []) :
    Leaves fields ("required", .arr items) ("required", .arr (items.filter (keepsItem fields)))
  | skip {value : Json} (h : ∀ items, value ≠ .arr items) :
    Leaves fields ("required", value) ("required", value)
  | search {name : String} {value left : Json} (hrequired : name ≠ "required")
    (hproperties : ∀ properties, (name, value) ≠ ("properties", .obj properties))
    (h : prune fields value = .ok left) : Leaves fields (name, value) (name, left)

/-- Properties are left of properties. -/
lemma Leaves.of_properties {whole : String × Json}
    (h : Leaves fields whole ("properties", .obj kept)) :
    ∃ properties, whole = ("properties", .obj properties) ∧
      Survive fields (fun schema left => prune fields schema = .ok left) properties kept := by
  generalize hpart : ("properties", Json.obj kept) = part at h
  cases h with
  | properties hsurvive =>
    rw [Json.obj.inj (Prod.mk.inj hpart).2]
    exact ⟨_, rfl, hsurvive⟩
  | names _ => exact absurd (Prod.mk.inj hpart).1 (by decide)
  | skip _ => exact absurd (Prod.mk.inj hpart).1 (by decide)
  | search _ hproperties hleft =>
    obtain ⟨rfl, rfl⟩ := Prod.mk.inj hpart
    obtain ⟨inner, rfl, -⟩ := prune_eq_obj_iff.1 hleft
    exact absurd rfl (hproperties inner)

/-- Required names are left of required names, and some are. -/
lemma Leaves.of_names {whole : String × Json} (h : Leaves fields whole ("required", .arr names)) :
    ∃ items, whole = ("required", .arr items) ∧ names = items.filter (keepsItem fields) ∧
      names ≠ [] := by
  generalize hpart : ("required", Json.arr names) = part at h
  cases h with
  | properties _ => exact absurd (Prod.mk.inj hpart).1 (by decide)
  | names hne =>
    rw [Json.arr.inj (Prod.mk.inj hpart).2]
    exact ⟨_, rfl, rfl, hne⟩
  | skip hskip => exact absurd (Prod.mk.inj hpart).2.symm (hskip names)
  | search hrequired _ _ => exact absurd (Prod.mk.inj hpart).1.symm hrequired

/-- What is searched is left of what was searched. -/
lemma Leaves.of_search {whole : String × Json} (h : Leaves fields whole (name, left))
    (hrequired : name ≠ "required")
    (hproperties : ∀ properties, (name, left) ≠ ("properties", .obj properties)) :
    ∃ value, whole = (name, value) ∧ prune fields value = .ok left ∧
      ∀ properties, (name, value) ≠ ("properties", .obj properties) := by
  cases h with
  | properties _ => exact absurd rfl (hproperties _)
  | names _ => exact absurd rfl hrequired
  | skip _ => exact absurd rfl hrequired
  | search _ hsearch hleft => exact ⟨_, rfl, hleft, hsearch⟩

/-- What a member leaves. -/
lemma leaves_of_mem (h : pruneMember fields name value = .ok kept) {m : String × Json}
    (hm : m ∈ kept) : Leaves fields (name, value) m := by
  cases treatment name value with
  | properties properties =>
    rw [pruneMember_properties] at h
    obtain ⟨left, hleft, rfl⟩ := Except.map_eq_ok.1 h
    rw [List.mem_singleton.1 hm]
    exact .properties (survive_of_pruneProperties hleft)
  | names items =>
    rw [pruneMember_names] at h
    obtain ⟨names, hnames, rfl⟩ := Except.map_eq_ok.1 h
    obtain ⟨-, rfl⟩ := keepRequired_eq_ok_iff.1 hnames
    unfold namesMember at hm
    split at hm
    · exact absurd hm List.not_mem_nil
    · rename_i hne
      rw [List.mem_singleton.1 hm]
      exact .names fun hnil => hne (List.isEmpty_iff.2 hnil)
  | skip hskip =>
    rw [pruneMember_skip fields hskip] at h
    rw [← Except.ok.inj h] at hm
    rw [List.mem_singleton.1 hm]
    exact .skip hskip
  | search hrequired hsearch =>
    rw [pruneMember_search fields hrequired hsearch] at h
    obtain ⟨left, hleft, rfl⟩ := Except.map_eq_ok.1 h
    rw [List.mem_singleton.1 hm]
    exact .search hrequired hsearch hleft

/-- The members that are left are what the members leave. -/
lemma mem_pruneMembers (h : pruneMembers fields members = .ok kept) :
    (∀ m ∈ kept, ∃ whole ∈ members, Leaves fields whole m) ∧
      ∀ whole ∈ members, ∃ part, pruneMember fields whole.1 whole.2 = .ok part ∧ part ⊆ kept := by
  -- along the members: what is left is put together from what each of them leaves
  induction members generalizing kept with
  | nil =>
    rw [pruneMembers] at h
    rw [← Except.ok.inj h]
    exact ⟨fun _ hm => absurd hm List.not_mem_nil, fun _ hm => absurd hm List.not_mem_nil⟩
  | cons member rest ih =>
    obtain ⟨name, value⟩ := member
    rw [pruneMembers_cons] at h
    obtain ⟨first, hfirst, h⟩ := Except.bind_eq_ok.1 h
    obtain ⟨more, hmore, h⟩ := Except.bind_eq_ok.1 h
    rw [← Except.ok.inj h]
    obtain ⟨hleaves, hparts⟩ := ih hmore
    constructor
    · intro m hm
      rcases List.mem_append.1 hm with hm | hm
      · exact ⟨(name, value), List.mem_cons_self, leaves_of_mem hfirst hm⟩
      · obtain ⟨whole, hwhole, hleaves⟩ := hleaves m hm
        exact ⟨whole, List.mem_cons_of_mem _ hwhole, hleaves⟩
    · intro whole hwhole
      rcases List.mem_cons.1 hwhole with rfl | hwhole
      · exact ⟨first, hfirst, List.subset_append_left first more⟩
      · obtain ⟨part, hpart, hsubset⟩ := hparts whole hwhole
        exact ⟨part, hpart, List.Subset.trans hsubset (List.subset_append_right first more)⟩

/-- Every object that is visited in the result is what is left of one that is visited in the
document. -/
theorem Visits.of_prune {node : List (String × Json)} {left : Json}
    (h : Visits [] (.obj node) left) {document : Json} (hleft : prune fields document = .ok left) :
    ∃ members, Visits fields (.obj members) document ∧ pruneMembers fields members = .ok node := by
  -- along the path to the object: each step back lands on a part of the document that was kept
  induction h generalizing document with
  | self =>
    obtain ⟨members, rfl, hmembers⟩ := prune_eq_obj_iff.1 hleft
    exact ⟨members, .self, hmembers⟩
  | item hitem _ ih =>
    obtain ⟨items, rfl, hitems⟩ := prune_eq_arr_iff.1 hleft
    obtain ⟨item, hmem, hpart⟩ := exists_of_mem_pruneItems hitems hitem
    obtain ⟨members, hvisits, hmembers⟩ := ih hpart
    exact ⟨members, .item hmem hvisits, hmembers⟩
  | property hmember hvalue _ _ ih =>
    obtain ⟨whole, rfl, hwhole⟩ := prune_eq_obj_iff.1 hleft
    obtain ⟨m, hm, hleaves⟩ := (mem_pruneMembers hwhole).1 _ hmember
    obtain ⟨properties, rfl, hsurvive⟩ := hleaves.of_properties
    obtain ⟨hname, schema, hschema, hpart⟩ := hsurvive.of_mem hvalue
    obtain ⟨members, hvisits, hmembers⟩ := ih hpart
    exact ⟨members, .property hm hschema hname hvisits, hmembers⟩
  | member hmember hrequired hproperties _ ih =>
    obtain ⟨whole, rfl, hwhole⟩ := prune_eq_obj_iff.1 hleft
    obtain ⟨m, hm, hleaves⟩ := (mem_pruneMembers hwhole).1 _ hmember
    obtain ⟨value, rfl, hpart, hsearch⟩ := hleaves.of_search hrequired hproperties
    obtain ⟨members, hvisits, hmembers⟩ := ih hpart
    exact ⟨members, .member hm hrequired hsearch hvisits, hmembers⟩

/-! ## Laws -/

/-- An object has no property and requires nothing of the names, and lists required names only if
there are some. -/
structure Cleared (fields : List String) (members : List (String × Json)) : Prop where
  properties : ∀ properties, ("properties", .obj properties) ∈ members →
    ∀ name ∈ Entries.names properties, name ∉ fields
  required : ∀ names, ("required", .arr names) ∈ members → ∀ name ∈ fields, .str name ∉ names
  nonempty : ("required", .arr []) ∉ members

/-- The required names that an object lists are names of its properties. -/
def DefinesNames (members : List (String × Json)) : Prop :=
  ∀ names, ("required", .arr names) ∈ members → ∀ item ∈ names, ∃ name properties,
    item = .str name ∧ ("properties", .obj properties) ∈ members ∧ name ∈ Entries.names properties

lemma cleared_of_pruneMembers (h : pruneMembers fields members = .ok kept) :
    Cleared fields kept := by
  have hleaves := (mem_pruneMembers h).1
  constructor
  · intro properties hmem name hname
    obtain ⟨m, -, hleaves⟩ := hleaves _ hmem
    obtain ⟨whole, -, hsurvive⟩ := hleaves.of_properties
    obtain ⟨p, hp, rfl⟩ := List.mem_map.1 hname
    exact (hsurvive.of_mem hp).1
  · intro names hmem name hname hitem
    obtain ⟨m, -, hleaves⟩ := hleaves _ hmem
    obtain ⟨items, -, rfl, -⟩ := hleaves.of_names
    have hkeeps : (!fields.contains name) = true := (List.mem_filter.1 hitem).2
    rw [List.contains_iff_mem.2 hname] at hkeeps
    exact absurd hkeeps (by decide)
  · intro hmem
    obtain ⟨m, -, hleaves⟩ := hleaves _ hmem
    obtain ⟨items, -, -, hne⟩ := hleaves.of_names
    exact hne rfl

lemma definesNames_of_pruneMembers (h : pruneMembers fields members = .ok kept)
    (hdefines : DefinesNames members) : DefinesNames kept := by
  intro names hmem item hitem
  obtain ⟨m, hm, hleaves⟩ := (mem_pruneMembers h).1 _ hmem
  obtain ⟨items, rfl, rfl, -⟩ := hleaves.of_names
  obtain ⟨hitem, hkeeps⟩ := List.mem_filter.1 hitem
  obtain ⟨name, properties, rfl, hproperties, hname⟩ := hdefines _ hm item hitem
  -- the properties stay where they are, and the name is one of those that are kept
  obtain ⟨part, hpart, hsubset⟩ := (mem_pruneMembers h).2 _ hproperties
  rw [pruneMember_properties] at hpart
  obtain ⟨left, hleft, rfl⟩ := Except.map_eq_ok.1 hpart
  refine ⟨name, left, rfl, hsubset List.mem_cons_self, ?_⟩
  rw [(survive_of_pruneProperties hleft).names]
  exact List.mem_filter.2 ⟨hname, hkeeps⟩

/-- Removing fields from a document whose required names are scalars succeeds; removing further
fields from the result removes all of them at once, so that a removal can be repeated or put off
without a difference. No object that is visited in the result has any of the fields, requires one or
lists no required names at all; and if the objects that are visited in the document require only
properties they have, so do those of the result. -/
theorem prune_union {document : Json}
    (h : ∀ node, Visits [] (.obj node) document → HasScalarNames node)
    (fields others : List String) :
    ∃ left right both, prune fields document = .ok left ∧ prune others document = .ok right ∧
      prune (fields ∪ others) document = .ok both ∧
      prune others left = .ok both ∧ prune fields right = .ok both ∧ prune fields left = .ok left ∧
      (∀ node, Visits [] (.obj node) left → Cleared fields node) ∧
      ((∀ node, Visits fields (.obj node) document → DefinesNames node) →
        ∀ node, Visits [] (.obj node) left → DefinesNames node) := by
  obtain ⟨left, hleft⟩ := exists_prune fields h
  obtain ⟨right, hright⟩ := exists_prune others h
  obtain ⟨both, hboth⟩ := exists_prune (fields ∪ others) h
  refine ⟨left, right, both, hleft, hright, hboth, ?_, ?_, ?_, ?_, ?_⟩
  · rw [prune_prune (fun name => List.mem_union_iff) hleft, hboth]
  · rw [prune_prune (fun name => List.mem_union_iff.trans or_comm) hright, hboth]
  · rw [prune_prune (fun name => (or_self_iff).symm) hleft, hleft]
  · intro node hvisits
    obtain ⟨members, -, hmembers⟩ := hvisits.of_prune hleft
    exact cleared_of_pruneMembers hmembers
  · intro hdefines node hvisits
    obtain ⟨members, hmember, hmembers⟩ := hvisits.of_prune hleft
    exact definesNames_of_pruneMembers hmembers (hdefines members hmember)

/-- An object schema with free properties of these names, all of them required. -/
def requiringAll (names : List String) : Json :=
  .obj [("properties", .obj (names.map fun name => (name, .obj []))),
    ("required", .arr (names.map .str))]

lemma visits_requiringAll {names : List String} {node : List (String × Json)}
    (h : Visits fields (.obj node) (requiringAll names)) :
    .obj node = requiringAll names ∨ node = [] := by
  unfold requiringAll at h ⊢
  -- the only schemas below are the empty ones of its properties
  cases h with
  | self => exact .inl rfl
  | property hmember hvalue _ h =>
    simp only [List.mem_cons, Prod.mk.injEq, true_and, List.not_mem_nil, or_false] at hmember
    rcases hmember with heq | ⟨heq, -⟩
    · rw [Json.obj.inj heq] at hvalue
      obtain ⟨name, -, heq⟩ := List.mem_map.1 hvalue
      rw [← (Prod.mk.inj heq).2] at h
      cases h with
      | self => exact .inr rfl
      | property hmember _ _ _ => exact absurd hmember List.not_mem_nil
      | member hmember _ _ _ => exact absurd hmember List.not_mem_nil
    · exact absurd heq (by decide)
  | member hmember hrequired hproperties _ =>
    simp only [List.mem_cons, List.not_mem_nil, or_false] at hmember
    rcases hmember with heq | heq
    · exact absurd heq (hproperties _)
    · exact absurd (Prod.mk.inj heq).1 hrequired

/-- Only the schema itself requires names, and each of them is the name of a property. -/
lemma exists_of_required_requiringAll {names : List String} {node : List (String × Json)}
    (h : Visits fields (.obj node) (requiringAll names)) {items : List Json}
    (hmem : ("required", .arr items) ∈ node) {item : Json} (hitem : item ∈ items) :
    ∃ name ∈ names, item = .str name ∧
      ("properties", .obj (names.map fun name => (name, .obj []))) ∈ node := by
  rcases visits_requiringAll h with heq | rfl
  · rw [Json.obj.inj heq] at hmem ⊢
    simp only [List.mem_cons, Prod.mk.injEq, true_and, List.not_mem_nil, or_false] at hmem
    rcases hmem with ⟨heq, -⟩ | heq
    · exact absurd heq (by decide)
    · rw [Json.arr.inj heq] at hitem
      obtain ⟨name, hname, rfl⟩ := List.mem_map.1 hitem
      exact ⟨name, hname, rfl, List.mem_cons_self⟩
  · exact absurd hmem List.not_mem_nil

lemma hasScalarNames_requiringAll {names : List String} {node : List (String × Json)}
    (h : Visits fields (.obj node) (requiringAll names)) : HasScalarNames node := by
  intro items hmem item hitem
  obtain ⟨name, -, rfl, -⟩ := exists_of_required_requiringAll h hmem hitem
  exact trivial

lemma definesNames_requiringAll {names : List String} {node : List (String × Json)}
    (h : Visits fields (.obj node) (requiringAll names)) : DefinesNames node := by
  intro items hmem item hitem
  obtain ⟨name, hname, rfl, hproperties⟩ := exists_of_required_requiringAll h hmem hitem
  exact ⟨name, _, rfl, hproperties, List.mem_map.2 ⟨_, List.mem_map_of_mem hname, rfl⟩⟩

/-- A property that is named like the list of required names is removed like any other. -/
theorem prune_union_keyword :
    (∀ node, Visits [] (.obj node) (requiringAll ["required", "__icon_url__"]) →
      HasScalarNames node) ∧
    (∀ node, Visits ["required"] (.obj node) (requiringAll ["required", "__icon_url__"]) →
      DefinesNames node) ∧
    ∃ left right both,
      prune ["required"] (requiringAll ["required", "__icon_url__"]) = .ok left ∧
      prune ["__icon_url__"] (requiringAll ["required", "__icon_url__"]) = .ok right ∧
      prune (["required"] ∪ ["__icon_url__"]) (requiringAll ["required", "__icon_url__"])
        = .ok both ∧
      prune ["__icon_url__"] left = .ok both ∧ prune ["required"] right = .ok both ∧
      prune ["required"] left = .ok left ∧
      (∀ node, Visits [] (.obj node) left → Cleared ["required"] node) ∧
      (∀ node, Visits [] (.obj node) left → DefinesNames node) ∧
      left = requiringAll ["__icon_url__"] ∧ both = .obj [("properties", .obj [])] := by
  have hscalar : ∀ node, Visits [] (.obj node) (requiringAll ["required", "__icon_url__"]) →
      HasScalarNames node := fun _ => hasScalarNames_requiringAll
  have hdefines : ∀ node,
      Visits ["required"] (.obj node) (requiringAll ["required", "__icon_url__"]) →
        DefinesNames node := fun _ => definesNames_requiringAll
  obtain ⟨left, right, both, hleft, hright, hboth, hleftBoth, hrightBoth, hagain, hcleared,
    hkept⟩ := prune_union hscalar ["required"] ["__icon_url__"]
  have hleftEq : prune ["required"] (requiringAll ["required", "__icon_url__"])
      = .ok (requiringAll ["__icon_url__"]) := rfl
  have hbothEq : prune (["required"] ∪ ["__icon_url__"])
      (requiringAll ["required", "__icon_url__"]) = .ok (.obj [("properties", .obj [])]) := rfl
  exact ⟨hscalar, hdefines, left, right, both, hleft, hright, hboth, hleftBoth, hrightBoth, hagain,
    hcleared, hkept hdefines, Except.ok.inj (hleft.symm.trans hleftEq),
    Except.ok.inj (hboth.symm.trans hbothEq)⟩

end SlideContract.Edit
