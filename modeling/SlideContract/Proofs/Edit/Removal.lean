import SlideContract.Proofs.Edit.Kept
import SlideContract.Proofs.Json.Part

/-!
# Removing fields twice

Removing some fields from a document and then others from what is left removes all of them at once,
at whatever depth and under whatever names they stand. Each member of an object is treated in one of
four ways, and what is left of it is treated in the same way again.

* `Treatment`: how removing fields treats a member of an object;
* `keepRequired_eq_ok_iff`: what is left of required names;
* `prune_prune`: two removals are one.
-/

namespace SlideContract.Edit

variable {fields others all : List String} {name : String} {value left : Json}
  {members properties kept : List (String × Json)} {items names : List Json}

/-! ## Members -/

/-- How removing fields treats a member of an object. -/
inductive Treatment : String → Json → Prop where
  /-- The values under the names of properties are searched. -/
  | properties (properties : List (String × Json)) : Treatment "properties" (.obj properties)
  /-- Required names are left out. -/
  | names (items : List Json) : Treatment "required" (.arr items)
  /-- What stands for required names and is no list is not looked at. -/
  | skip {value : Json} (h : ∀ items, value ≠ .arr items) : Treatment "required" value
  /-- Anything else is searched as a whole. -/
  | search {name : String} {value : Json} (hrequired : name ≠ "required")
    (hproperties : ∀ properties, (name, value) ≠ ("properties", .obj properties)) :
    Treatment name value

lemma treatment (name : String) (value : Json) : Treatment name value := by
  by_cases hrequired : name = "required"
  · subst hrequired
    cases value with
    | arr items => exact .names items
    | _ => exact .skip fun _ => nofun
  · by_cases hproperties : ∃ properties, (name, value) = ("properties", .obj properties)
    · obtain ⟨properties, heq⟩ := hproperties
      obtain ⟨rfl, rfl⟩ := Prod.mk.inj heq
      exact .properties properties
    · exact .search hrequired fun properties heq => hproperties ⟨properties, heq⟩

/-- The member that lists required names, left out if there are none. -/
def namesMember (names : List Json) : List (String × Json) :=
  if names.isEmpty then [] else [("required", .arr names)]

lemma pruneMember_properties (fields : List String) (properties : List (String × Json)) :
    pruneMember fields "properties" (.obj properties)
      = (pruneProperties fields properties).map fun kept => [("properties", .obj kept)] := by
  show (do return [("properties", Json.obj (← pruneProperties fields properties))]) = _
  cases pruneProperties fields properties <;> rfl

lemma pruneMember_names (fields : List String) (items : List Json) :
    pruneMember fields "required" (.arr items) = (keepRequired fields items).map namesMember := by
  unfold pruneMember
  dsimp only
  rw [if_pos rfl]
  cases keepRequired fields items with
  | error fault => rfl
  | ok names => cases names <;> rfl

lemma pruneMember_skip (fields : List String) (h : ∀ items, value ≠ .arr items) :
    pruneMember fields "required" value = .ok [("required", value)] := by
  cases value with
  | arr items => exact absurd rfl (h items)
  | _ => rfl

lemma pruneMember_search (fields : List String) (hrequired : name ≠ "required")
    (hproperties : ∀ properties, (name, value) ≠ ("properties", .obj properties)) :
    pruneMember fields name value = (prune fields value).map fun left => [(name, left)] := by
  cases value with
  | obj members =>
    have hname : name ≠ "properties" := fun heq => hproperties members (by rw [heq])
    unfold pruneMember prune
    simp only [if_neg hname, if_neg hrequired]
    cases pruneMembers fields members <;> rfl
  | arr items =>
    unfold pruneMember prune
    simp only [if_neg hrequired]
    cases pruneItems fields items <;> rfl
  | _ =>
    unfold pruneMember prune
    rfl

lemma pruneMembers_singleton (fields : List String) (name : String) (value : Json) :
    pruneMembers fields [(name, value)] = pruneMember fields name value := by
  rw [pruneMembers_cons, pruneMembers]
  cases pruneMember fields name value with
  | error fault => rfl
  | ok kept => exact congrArg Except.ok (List.append_nil kept)

/-- Members are pruned one after the other. -/
lemma pruneMembers_append (fields : List String) (members more : List (String × Json)) :
    pruneMembers fields (members ++ more) = do
      return (← pruneMembers fields members) ++ (← pruneMembers fields more) := by
  induction members with
  | nil =>
    rw [List.nil_append, pruneMembers]
    cases pruneMembers fields more <;> rfl
  | cons member rest ih =>
    obtain ⟨name, value⟩ := member
    rw [List.cons_append, pruneMembers_cons, pruneMembers_cons, ih]
    simp only [bind_assoc, pure_bind, List.append_assoc]

/-! ## Required names -/

/-- The item is no name that is removed. -/
def keepsItem (fields : List String) : Json → Bool
  | .str name => !fields.contains name
  | _ => true

lemma keepRequired_scalar (fields : List String) {item : Json} (h : item.IsScalar)
    (rest : List Json) :
    keepRequired fields (item :: rest)
      = (keepRequired fields rest).map fun names =>
        if keepsItem fields item then item :: names else names := by
  cases item with
  | arr items => exact h.elim
  | obj members => exact h.elim
  | str name =>
    show (do
      let kept ← keepRequired fields rest
      return if fields.contains name then kept else .str name :: kept)
        = (keepRequired fields rest).map fun names =>
          if !fields.contains name then .str name :: names else names
    cases keepRequired fields rest <;> cases fields.contains name <;> rfl
  | _ =>
    conv_lhs => unfold keepRequired
    cases keepRequired fields rest <;> rfl

lemma keepRequired_compound (fields : List String) {item : Json} (h : ¬ item.IsScalar)
    (rest : List Json) : keepRequired fields (item :: rest) = .error .compoundRequired := by
  cases item with
  | arr items => rfl
  | obj members => rfl
  | _ => exact absurd trivial h

/-- Required names are left out one by one, where no list or object is among them. -/
lemma keepRequired_eq_ok_iff :
    keepRequired fields items = .ok names ↔
      (∀ item ∈ items, item.IsScalar) ∧ names = items.filter (keepsItem fields) := by
  -- along the items: the first that is a list or an object makes it fail
  induction items generalizing names with
  | nil => simp [keepRequired, eq_comm]
  | cons item rest ih =>
    by_cases hscalar : item.IsScalar
    · rw [keepRequired_scalar fields hscalar, Except.map_eq_ok, List.forall_mem_cons,
        List.filter_cons]
      constructor
      · rintro ⟨others, hothers, rfl⟩
        obtain ⟨hrest, rfl⟩ := ih.1 hothers
        exact ⟨⟨hscalar, hrest⟩, rfl⟩
      · rintro ⟨⟨-, hrest⟩, rfl⟩
        exact ⟨_, ih.2 ⟨hrest, rfl⟩, rfl⟩
    · rw [keepRequired_compound fields hscalar]
      exact iff_of_false (by rintro ⟨⟩) fun h => hscalar (h.1 item List.mem_cons_self)

lemma keepsItem_and (hall : ∀ name, name ∈ all ↔ name ∈ fields ∨ name ∈ others) (item : Json) :
    (keepsItem others item && keepsItem fields item) = keepsItem all item := by
  cases item with
  | str name =>
    show (!others.contains name && !fields.contains name) = !all.contains name
    rw [Bool.eq_iff_iff]
    simp [hall, and_comm]
  | _ => rfl

/-! ## Results of removal -/

lemma pruneItems_eq_mapM : pruneItems fields items = items.mapM (prune fields) := by
  induction items with
  | nil =>
    rw [pruneItems]
    rfl
  | cons item rest ih => rw [pruneItems, List.mapM_cons, ih]

lemma pruneItems_eq_ok_iff {lefts : List Json} :
    pruneItems fields items = .ok lefts ↔
      List.Forall₂ (fun item left => prune fields item = .ok left) items lefts := by
  rw [pruneItems_eq_mapM, Except.mapM_eq_ok_iff]

lemma exists_of_mem_pruneItems {lefts : List Json} (h : pruneItems fields items = .ok lefts)
    (hleft : left ∈ lefts) : ∃ item ∈ items, prune fields item = .ok left := by
  rw [pruneItems_eq_mapM] at h
  exact Except.exists_of_mem_mapM h hleft

lemma survive_of_pruneProperties (h : pruneProperties fields properties = .ok kept) :
    Survive fields (fun schema left => prune fields schema = .ok left) properties kept := by
  induction properties generalizing kept with
  | nil =>
    rw [pruneProperties] at h
    rw [← Except.ok.inj h]
    exact .nil
  | cons property rest ih =>
    obtain ⟨name, schema⟩ := property
    rw [pruneProperties] at h
    split at h
    · rename_i hcontains
      exact .drop (List.contains_iff_mem.1 hcontains) (ih h)
    · rename_i hcontains
      obtain ⟨left, hleft, h⟩ := Except.bind_eq_ok.1 h
      obtain ⟨kept, hkept, h⟩ := Except.bind_eq_ok.1 h
      rw [← Except.ok.inj h]
      exact .keep (fun hname => hcontains (List.contains_iff_mem.2 hname)) hleft (ih hkept)

/-- A value that is left is an object exactly if it is what is left of one. -/
lemma prune_eq_obj_iff {document : Json} :
    prune fields document = .ok (.obj kept) ↔
      ∃ members, document = .obj members ∧ pruneMembers fields members = .ok kept := by
  constructor
  · intro h
    cases document with
    | obj members =>
      obtain ⟨left, heq, hleft⟩ := exists_obj_of_prune h
      exact ⟨members, rfl, Json.obj.inj heq ▸ hleft⟩
    | arr items =>
      unfold prune at h
      obtain ⟨lefts, -, h⟩ := Except.bind_eq_ok.1 h
      cases Except.ok.inj h
    | _ =>
      unfold prune at h
      cases Except.ok.inj h
  · rintro ⟨members, rfl, h⟩
    unfold prune
    rw [h]
    rfl

/-- A value that is left is a list exactly if it is what is left of one. -/
lemma prune_eq_arr_iff {document : Json} {lefts : List Json} :
    prune fields document = .ok (.arr lefts) ↔
      ∃ items, document = .arr items ∧ pruneItems fields items = .ok lefts := by
  constructor
  · intro h
    cases document with
    | arr items =>
      unfold prune at h
      obtain ⟨others, hothers, h⟩ := Except.bind_eq_ok.1 h
      exact ⟨items, rfl, Json.arr.inj (Except.ok.inj h) ▸ hothers⟩
    | obj members =>
      obtain ⟨left, heq, -⟩ := exists_obj_of_prune h
      cases heq
    | _ =>
      unfold prune at h
      cases Except.ok.inj h
  · rintro ⟨items, rfl, h⟩
    unfold prune
    rw [h]
    rfl

/-! ## Two removals -/

/-- Removing further fields from what is left removes all of them. -/
def Composes (fields others all : List String) (value : Json) : Prop :=
  ∀ left, prune fields value = .ok left → prune others left = prune all value

section Union

variable (hall : ∀ name, name ∈ all ↔ name ∈ fields ∨ name ∈ others)

include hall

lemma keepRequired_again (h : keepRequired fields items = .ok names) :
    keepRequired others names = keepRequired all items := by
  obtain ⟨hscalar, rfl⟩ := keepRequired_eq_ok_iff.1 h
  have hothers : keepRequired others (items.filter (keepsItem fields))
      = .ok ((items.filter (keepsItem fields)).filter (keepsItem others)) :=
    keepRequired_eq_ok_iff.2 ⟨fun item hitem => hscalar item (List.mem_of_mem_filter hitem), rfl⟩
  have hunion : keepRequired all items = .ok (items.filter (keepsItem all)) :=
    keepRequired_eq_ok_iff.2 ⟨hscalar, rfl⟩
  rw [hothers, hunion, List.filter_filter]
  simp only [keepsItem_and hall]

omit hall in
lemma pruneItems_again (hitems : ∀ item ∈ items, Composes fields others all item)
    {lefts : List Json} (h : pruneItems fields items = .ok lefts) :
    pruneItems others lefts = pruneItems all items := by
  have hpairs := pruneItems_eq_ok_iff.1 h
  clear h
  induction hpairs with
  | nil =>
    rw [pruneItems, pruneItems]
  | cons hleft _ ih =>
    rw [pruneItems, pruneItems, hitems _ List.mem_cons_self _ hleft,
      ih fun item hitem => hitems item (List.mem_cons_of_mem _ hitem)]

lemma pruneProperties_again (hproperties : ∀ p ∈ properties, Composes fields others all p.2)
    (h : pruneProperties fields properties = .ok kept) :
    pruneProperties others kept = pruneProperties all properties := by
  have hsurvive := survive_of_pruneProperties h
  clear h
  -- along what survived: a dropped name is among all the fields, and a kept one is judged by the
  -- others alone
  induction hsurvive with
  | nil => rw [pruneProperties, pruneProperties]
  | @drop property _ _ hfield _ ih =>
    obtain ⟨name, schema⟩ := property
    have hgone : all.contains name = true := List.contains_iff_mem.2 ((hall name).2 (.inl hfield))
    rw [ih fun p hp => hproperties p (List.mem_cons_of_mem _ hp), pruneProperties, if_pos hgone]
  | @keep name _ _ _ _ hfield hleft _ ih =>
    have hrest := ih fun p hp => hproperties p (List.mem_cons_of_mem _ hp)
    have hcontains : others.contains name = all.contains name := by
      rw [Bool.eq_iff_iff]
      simp [hall, hfield]
    rw [pruneProperties, pruneProperties, hcontains, hrest,
      hproperties _ List.mem_cons_self _ hleft]

lemma pruneMember_again (hvalue : Composes fields others all value)
    (hproperties : ∀ properties, value = .obj properties →
      ∀ p ∈ properties, Composes fields others all p.2)
    (h : pruneMember fields name value = .ok kept) :
    pruneMembers others kept = pruneMember all name value := by
  -- what a member is treated by stays when fields are removed from it, so the second removal
  -- treats what is left as the first did
  cases treatment name value with
  | properties properties =>
    rw [pruneMember_properties] at h ⊢
    obtain ⟨left, hleft, rfl⟩ := Except.map_eq_ok.1 h
    rw [pruneMembers_singleton, pruneMember_properties,
      pruneProperties_again hall (hproperties properties rfl) hleft]
  | names items =>
    rw [pruneMember_names] at h ⊢
    obtain ⟨names, hnames, rfl⟩ := Except.map_eq_ok.1 h
    rw [← keepRequired_again hall hnames]
    cases names with
    | nil =>
      show pruneMembers others [] = _
      rw [pruneMembers]
      rfl
    | cons first rest =>
      show pruneMembers others [("required", .arr (first :: rest))] = _
      rw [pruneMembers_singleton, pruneMember_names]
  | skip hskip =>
    rw [pruneMember_skip fields hskip] at h
    rw [← Except.ok.inj h, pruneMembers_singleton, pruneMember_skip others hskip,
      pruneMember_skip all hskip]
  | search hrequired hsearch =>
    rw [pruneMember_search fields hrequired hsearch] at h
    obtain ⟨left, hleft, rfl⟩ := Except.map_eq_ok.1 h
    have hsearch' : ∀ properties, (name, left) ≠ ("properties", .obj properties) := by
      intro properties heq
      obtain ⟨rfl, rfl⟩ := Prod.mk.inj heq
      obtain ⟨members, rfl, -⟩ := prune_eq_obj_iff.1 hleft
      exact hsearch members rfl
    rw [pruneMembers_singleton, pruneMember_search others hrequired hsearch',
      pruneMember_search all hrequired hsearch, hvalue left hleft]

lemma pruneMembers_again (hvalues : ∀ m ∈ members, Composes fields others all m.2)
    (hproperties : ∀ m ∈ members, ∀ properties, m.2 = .obj properties →
      ∀ p ∈ properties, Composes fields others all p.2)
    (h : pruneMembers fields members = .ok kept) :
    pruneMembers others kept = pruneMembers all members := by
  induction members generalizing kept with
  | nil =>
    rw [pruneMembers] at h
    rw [← Except.ok.inj h, pruneMembers, pruneMembers]
  | cons member rest ih =>
    obtain ⟨name, value⟩ := member
    rw [pruneMembers_cons] at h ⊢
    obtain ⟨left, hleft, h⟩ := Except.bind_eq_ok.1 h
    obtain ⟨lefts, hlefts, h⟩ := Except.bind_eq_ok.1 h
    -- what is left of a member is treated by itself, so both removals go member by member
    have hfirst := pruneMember_again hall (hvalues _ List.mem_cons_self)
      (hproperties _ List.mem_cons_self) hleft
    have hrest := ih (fun m hm => hvalues m (List.mem_cons_of_mem _ hm))
      (fun m hm => hproperties m (List.mem_cons_of_mem _ hm)) hlefts
    rw [← Except.ok.inj h, pruneMembers_append, hfirst, hrest]

/-- Removing some fields and then others removes all of them. -/
theorem prune_prune {document left : Json} (h : prune fields document = .ok left) :
    prune others left = prune all document := by
  -- by size: a property's schema lies two levels below, so the hypothesis on the members alone is
  -- not enough
  induction document using Json.induction_on_size generalizing left with
  | h document ih =>
    cases document with
    | obj members =>
      obtain ⟨kept, rfl, hkept⟩ := exists_obj_of_prune h
      unfold prune
      rw [pruneMembers_again hall ?_ ?_ hkept]
      · intro m hm left hleft
        exact ih m.2 (Json.sizeOf_member_lt hm) hleft
      · intro m hm properties heq p hp left hleft
        have hlt := Json.sizeOf_member_lt hm
        rw [heq] at hlt
        exact ih p.2 (Nat.lt_trans (Json.sizeOf_member_lt hp) hlt) hleft
    | arr items =>
      unfold prune at h
      obtain ⟨lefts, hlefts, h⟩ := Except.bind_eq_ok.1 h
      rw [← Except.ok.inj h]
      unfold prune
      rw [pruneItems_again ?_ hlefts]
      intro item hitem left hleft
      exact ih item (Json.sizeOf_item_lt hitem) hleft
    | _ =>
      unfold prune at h
      rw [← Except.ok.inj h]
      unfold prune
      rfl

end Union

end SlideContract.Edit
