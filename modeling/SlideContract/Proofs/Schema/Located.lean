import SlideContract.Proofs.Json.Part
import SlideContract.Proofs.Entries
import SlideContract.Proofs.Json.Place
import SlideContract.Proofs.Run
import SlideContract.Proofs.Schema.Found

/-!
# Where violations are

Whatever a schema finds wrong with a value is found at a part of the value. A keyword finds it at
the value itself, or one step down where it hands an item or a member on to another schema; so the
locations are those of parts, by induction over the schema.

* `Located`: violations at parts of a value, put together as checks are;
* `Keyword.located_check`: the rules of the keywords;
* `located_of_violations`: the violations of a schema.
-/

namespace SlideContract.Schema

/-- What is found is found at parts of the value. -/
def Located (v : Json) (found : Found) : Prop :=
  ∀ x ∈ found.violations, ∃ part, Json.PartAt part v x.location

variable {a b : Found} {v item value : Json} {items : List Json} {members : List (String × Json)}
  {name : String}

namespace Located

lemma nothing : Located v .nothing := fun _ h => absurd h List.not_mem_nil

lemma failed (fault : Fault) : Located v (.failed fault) := fun _ h => absurd h List.not_mem_nil

lemma one {x : Violation} (h : x.location = []) : Located v (.one x) := by
  intro y hy
  rw [List.mem_singleton.1 hy, h]
  exact ⟨v, .root⟩

lemma andThen (ha : Located v a) (hb : Located v b) : Located v (a.andThen b) := by
  unfold Found.andThen
  split
  · exact ha
  · intro x hx
    exact (List.mem_append.1 hx).elim (ha x) (hb x)

lemma all {founds : List Found} (h : ∀ found ∈ founds, Located v found) :
    Located v (.all founds) := by
  induction founds with
  | nil => exact nothing
  | cons found rest ih =>
    exact (h found List.mem_cons_self).andThen (ih fun f hf => h f (List.mem_cons_of_mem _ hf))

lemma all_map {α : Type} {list : List α} {check : α → Found}
    (h : ∀ a ∈ list, Located v (check a)) : Located v (.all (list.map check)) :=
  all fun _ hfound => by
    obtain ⟨a, ha, rfl⟩ := List.mem_map.1 hfound
    exact h a ha

lemma ofResult {α : Type} {result : Except Fault α} {next : α → Found}
    (h : ∀ a, result = .ok a → Located v (next a)) : Located v (.ofResult result next) := by
  unfold Found.ofResult
  split
  · exact h _ rfl
  · exact failed _

lemma below_item {i : ℕ} (hitem : items[i]? = some item) (h : Located item a) :
    Located (.arr items) (a.below (.index i)) := by
  intro x hx
  obtain ⟨inner, hinner, rfl⟩ := List.mem_map.1 hx
  obtain ⟨part, hpart⟩ := h inner hinner
  exact ⟨part, .item hitem hpart⟩

lemma below_member (hmember : (name, value) ∈ members) (h : Located value a) :
    Located (.obj members) (a.below (.name name)) := by
  intro x hx
  obtain ⟨inner, hinner, rfl⟩ := List.mem_map.1 hx
  obtain ⟨part, hpart⟩ := h inner hinner
  exact ⟨part, .member hmember hpart⟩

end Located

/-- A check of a schema finds violations at parts of values, and if the schema accepts nothing only
at the values themselves. -/
structure Check.Locates (schema : Json) (check : Check) : Prop where
  located : ∀ v, Located v (check v)
  refused : schema = .bool false → ∀ v, ∀ x ∈ (check v).violations, x.location = []

/-- The checks that a keyword leads to find violations at parts of values. -/
structure Keyword.Locates (k : Keyword) : Prop where
  whole : Check.Locates k.value k.whole
  items : ∀ p ∈ k.items, Check.Locates p.1 p.2
  members : ∀ p ∈ k.members, Check.Locates p.2.1 p.2.2

lemma Check.locates_failed (schema : Json) (fault : Fault) :
    Check.Locates schema fun _ => .failed fault :=
  ⟨fun _ => .failed fault, fun _ _ _ h => absurd h List.not_mem_nil⟩

namespace Keyword

variable {k : Keyword} {keywords : List Keyword} {schema : Json} {check : Check}

lemma located_violatedIf (k : Keyword) (v : Json) (condition : Bool) (message : String) :
    Located v (k.violatedIf v condition message) := by
  unfold violatedIf
  split
  · exact .one rfl
  · exact .nothing

/-! ## The value itself -/

lemma located_checkType (k : Keyword) (v : Json) : Located v (k.checkType v) :=
  .ofResult fun _ _ => .ofResult fun _ _ => located_violatedIf k v _ _

lemma located_checkEnum (k : Keyword) (v : Json) : Located v (k.checkEnum v) :=
  .ofResult fun _ _ => located_violatedIf k v _ _

lemma located_checkBound (k : Keyword) (v : Json) (breaks : Number → Number → Bool)
    (words : String) : Located v (k.checkBound v breaks words) := by
  unfold checkBound
  split
  · exact .ofResult fun bound _ => located_violatedIf k _ _ _
  · exact .nothing

lemma located_checkMultiple (k : Keyword) (v : Json) : Located v (k.checkMultiple v) := by
  unfold checkMultiple
  split
  · exact .ofResult fun holds _ => located_violatedIf k _ _ _
  · exact .nothing

lemma located_checkLeast (k : Keyword) (v : Json) (size : ℕ) (one other : String) :
    Located v (k.checkLeast v size one other) :=
  .ofResult fun _ _ => located_violatedIf k v _ _

lemma located_checkMost (k : Keyword) (v : Json) (size : ℕ) (zero other : String) :
    Located v (k.checkMost v size zero other) :=
  .ofResult fun _ _ => located_violatedIf k v _ _

lemma located_ofString {rule : ℕ → Found} (h : ∀ size, Located v (rule size)) :
    Located v (ofString v rule) := by
  unfold ofString
  split
  · exact h _
  · exact .nothing

lemma located_ofList {rule : ℕ → Found} (h : ∀ size, Located v (rule size)) :
    Located v (ofList v rule) := by
  unfold ofList
  split
  · exact h _
  · exact .nothing

lemma located_ofObject {rule : ℕ → Found} (h : ∀ size, Located v (rule size)) :
    Located v (ofObject v rule) := by
  unfold ofObject
  split
  · exact h _
  · exact .nothing

lemma located_checkPattern (k : Keyword) (v : Json) : Located v (k.checkPattern v) := by
  unfold checkPattern
  split
  · exact .ofResult fun found _ => located_violatedIf k _ _ _
  · exact .failed _
  · exact .nothing

lemma located_checkContains (k : Keyword) (v : Json) : Located v (k.checkContains v) := by
  unfold checkContains
  split
  · exact .ofResult fun found _ => located_violatedIf k _ _ _
  · exact .nothing

lemma located_checkUnique (k : Keyword) (v : Json) : Located v (k.checkUnique v) := by
  unfold checkUnique
  split
  · exact located_violatedIf k _ _ _
  · exact .nothing

lemma located_checkAnyOf (k : Keyword) (v : Json) : Located v (k.checkAnyOf v) :=
  .ofResult fun _ _ => .ofResult fun _ _ => located_violatedIf k v _ _

lemma located_checkOneOf (k : Keyword) (v : Json) : Located v (k.checkOneOf v) := by
  unfold checkOneOf
  refine .ofResult fun schemas _ => .ofResult fun found _ => ?_
  split
  · exact .one rfl
  · exact .ofResult fun more _ => located_violatedIf k _ _ _

lemma located_checkNot (k : Keyword) (v : Json) : Located v (k.checkNot v) :=
  .ofResult fun _ _ => located_violatedIf k v _ _

lemma located_checkRequired (k : Keyword) (v : Json) : Located v (k.checkRequired v) := by
  unfold checkRequired
  split
  · refine .ofResult fun names _ => .all_map fun name _ => .ofResult fun has _ => ?_
    split
    · exact .nothing
    · exact .one rfl
  · exact .nothing

/-! ## Parts -/

lemma located_of_refused (h : Check.Locates (.bool false) check) (part : Json) :
    Located v (check part) := by
  intro x hx
  rw [h.refused rfl part x hx]
  exact ⟨v, .root⟩

lemma located_item (h : Check.Locates schema check) {i : ℕ} (hitem : items[i]? = some item) :
    Located (.arr items) (checkPart schema check (.index i) item) := by
  unfold checkPart
  split
  · exact located_of_refused h item
  · exact (h.located item).below_item hitem

lemma located_member (h : Check.Locates schema check) (hmember : (name, value) ∈ members) :
    Located (.obj members) (checkPart schema check (.name name) value) := by
  unfold checkPart
  split
  · exact located_of_refused h value
  · exact (h.located value).below_member hmember

/-! ## Lists -/

lemma located_checkEach (h : k.Locates) (first : ℕ) (items : List Json) :
    Located (.arr items) (k.checkEach first (items.drop first)) := by
  unfold checkEach
  refine .all_map fun ⟨item, i⟩ hmem => located_item h.whole ?_
  -- the items are counted from where the list was cut, so that each keeps its own index
  obtain ⟨hle, hitem⟩ := List.mem_zipIdx_iff_le_and_getElem?_sub.1 hmem
  rwa [List.getElem?_drop, Nat.add_sub_of_le hle] at hitem

lemma located_checkItems (h : k.Locates) (v : Json) : Located v (k.checkItems v) := by
  unfold checkItems
  split
  · refine .all_map fun ⟨⟨item, schema, check⟩, i⟩ hmem => ?_
    obtain ⟨hitem, hcheck⟩ :=
      List.getElem?_zip_eq_some.1 (List.mem_zipIdx_iff_getElem?.1 hmem)
    exact located_item (h.items _ (List.mem_of_getElem? hcheck)) hitem
  · exact located_checkEach h 0 _
  · exact .nothing

lemma located_checkAdditionalItems (h : k.Locates) (v : Json) :
    Located v (checkAdditionalItems keywords k v) := by
  unfold checkAdditionalItems
  dsimp only
  split
  · exact .nothing
  · exact .nothing
  · split
    · exact .failed _
    · split
      · exact located_checkEach h _ _
      · exact located_violatedIf k _ _ _
  · exact .nothing

/-! ## Objects -/

lemma mem_of_named {schemas : List (String × Json × Check)} (h : k.Locates)
    (hnamed : k.named = .ok schemas) : ∀ p ∈ schemas, Check.Locates p.2.1 p.2.2 := by
  unfold named at hnamed
  split at hnamed
  · rw [← Except.ok.inj hnamed]
    exact h.members
  · cases hnamed

lemma located_checkProperties (h : k.Locates) (v : Json) : Located v (k.checkProperties v) := by
  unfold checkProperties
  split
  · refine .ofResult fun schemas hnamed => .all_map fun ⟨name, schema, check⟩ hmem => ?_
    dsimp only
    split
    · rename_i hget
      exact located_member (mem_of_named h hnamed _ hmem) (Entries.mem_of_get? hget)
    · exact .nothing
  · exact .nothing

lemma located_checkPatternProperties (h : k.Locates) (v : Json) :
    Located v (k.checkPatternProperties v) := by
  unfold checkPatternProperties
  split
  · refine .ofResult fun schemas hnamed => .all_map fun ⟨pattern, schema, check⟩ hmem => ?_
    refine .all_map fun ⟨name, value⟩ hmember => .ofResult fun found _ => ?_
    split
    · exact located_member (mem_of_named h hnamed _ hmem) hmember
    · exact .nothing
  · exact .nothing

/-- A string has no part but itself, so what is wrong with a name is found at the object. -/
lemma located_checkPropertyNames (h : k.Locates) (v : Json) :
    Located v (k.checkPropertyNames v) := by
  unfold checkPropertyNames
  split
  · refine .all_map fun ⟨name, value⟩ _ => fun x hx => ?_
    obtain ⟨part, hpart⟩ := h.whole.located (.str name) x hx
    generalize x.location = location at hpart ⊢
    cases hpart
    exact ⟨_, .root⟩
  · exact .nothing

/-- The first name is an extra one or not. -/
lemma extraNames_cons {properties : Json} {pattern : List Char} {names extra : List String}
    (h : extraNames properties pattern (name :: names) = .ok extra) :
    ∃ others, extraNames properties pattern names = .ok others ∧
      (extra = others ∨ extra = name :: others) := by
  -- however it is settled whether the name is covered, the others are listed alike
  have hgoes : ∀ covered : Bool, (do
      let others ← extraNames properties pattern names
      return if covered then others else name :: others) = .ok extra →
      ∃ others, extraNames properties pattern names = .ok others ∧
        (extra = others ∨ extra = name :: others) := by
    intro covered h
    obtain ⟨others, hothers, h⟩ := Except.bind_eq_ok.1 h
    rw [← Except.ok.inj h]
    refine ⟨others, hothers, ?_⟩
    cases covered with
    | true => exact .inl rfl
    | false => exact .inr rfl
  unfold extraNames at h
  obtain ⟨included, -, h⟩ := Except.bind_eq_ok.1 h
  dsimp only at h
  split at h
  · exact hgoes true h
  · split at h
    · exact hgoes false h
    · obtain ⟨found, -, h⟩ := Except.bind_eq_ok.1 h
      exact hgoes found h

lemma mem_of_extraNames {properties : Json} {pattern : List Char} {names extra : List String}
    (h : extraNames properties pattern names = .ok extra) : ∀ name ∈ extra, name ∈ names := by
  induction names generalizing extra with
  | nil =>
    rw [← Except.ok.inj h]
    exact fun _ h => h
  | cons name rest ih =>
    obtain ⟨others, hothers, rfl | rfl⟩ := extraNames_cons h
    · exact fun other hother => List.mem_cons_of_mem _ (ih hothers other hother)
    · exact fun other hother => List.mem_cons.2 ((List.mem_cons.1 hother).imp id (ih hothers other))

lemma located_checkAdditional (h : k.Locates) (v : Json) :
    Located v (checkAdditional keywords k v) := by
  unfold checkAdditional
  split
  · rename_i members
    refine .ofResult fun patterns _ => .ofResult fun extra hextra => ?_
    split
    · refine .all_map fun name hname => located_member h.whole ?_
      have hmem := mem_of_extraNames hextra name hname
      cases hget : Entries.get? name members with
      | none => exact absurd hmem (Entries.get?_eq_none_iff.1 hget)
      | some value => exact Entries.mem_of_get? hget
    · split
      · exact .ofResult fun known _ => .one rfl
      · exact .nothing
  · exact .nothing

lemma located_checkDependencies (h : k.Locates) (v : Json) :
    Located v (k.checkDependencies v) := by
  unfold checkDependencies
  split
  · refine .ofResult fun dependencies hnamed => .all_map fun ⟨name, dependency, check⟩ hmem => ?_
    dsimp only
    split
    · unfold checkDependency
      split
      · exact .all_map fun other _ => .ofResult fun has _ => located_violatedIf k _ _ _
      · exact (mem_of_named h hnamed _ hmem).located _
    · exact .nothing
  · exact .nothing

/-! ## Combined schemas -/

lemma mem_of_schemas {schemas : List (Json × Check)} (h : k.Locates)
    (hschemas : k.schemas = .ok schemas) : ∀ p ∈ schemas, Check.Locates p.1 p.2 := by
  unfold Keyword.schemas at hschemas
  split at hschemas
  · rw [← Except.ok.inj hschemas]
    exact h.items
  · obtain ⟨parts, -, rfl⟩ := Except.map_eq_ok.1 hschemas
    intro p hp
    obtain ⟨part, -, rfl⟩ := List.mem_map.1 hp
    exact Check.locates_failed part .noSchema

lemma located_checkAllOf (h : k.Locates) (v : Json) : Located v (k.checkAllOf v) := by
  unfold checkAllOf
  refine .ofResult fun schemas hschemas => .all_map fun ⟨schema, check⟩ hmem => ?_
  exact (mem_of_schemas h hschemas _ hmem).located v

lemma located_checkIf (hkeywords : ∀ k ∈ keywords, k.Locates) (v : Json) :
    Located v (checkIf keywords k v) := by
  unfold checkIf
  refine .ofResult fun accepted _ => ?_
  split
  · rename_i branch hbranch
    exact (hkeywords branch (List.mem_of_find?_eq_some hbranch)).whole.located v
  · exact .nothing

/-! ## All rules -/

/-- A keyword finds violations at parts of the value. -/
theorem located_check (hkeywords : ∀ k ∈ keywords, k.Locates) (h : k.Locates) (v : Json) :
    Located v (k.check keywords v) := by
  -- one case for each keyword; only those that look below the value need that its schema locates
  unfold Keyword.check
  split
  · exact located_checkType k v
  · exact located_checkEnum k v
  · exact located_violatedIf k v _ _
  · exact located_checkBound k v _ _
  · exact located_checkBound k v _ _
  · exact located_checkBound k v _ _
  · exact located_checkBound k v _ _
  · exact located_checkMultiple k v
  · exact located_ofString fun size => located_checkLeast k v size _ _
  · exact located_ofString fun size => located_checkMost k v size _ _
  · exact located_checkPattern k v
  · exact located_checkItems h v
  · exact located_checkAdditionalItems h v
  · exact located_ofList fun size => located_checkLeast k v size _ _
  · exact located_ofList fun size => located_checkMost k v size _ _
  · exact located_checkContains k v
  · exact located_checkUnique k v
  · exact located_checkRequired k v
  · exact located_checkProperties h v
  · exact located_checkPatternProperties h v
  · exact located_checkPropertyNames h v
  · exact located_checkAdditional h v
  · exact located_ofObject fun size => located_checkLeast k v size _ _
  · exact located_ofObject fun size => located_checkMost k v size _ _
  · exact located_checkDependencies h v
  · exact located_checkAllOf h v
  · exact located_checkAnyOf k v
  · exact located_checkOneOf k v
  · exact located_checkNot k v
  · exact located_checkIf hkeywords v
  · exact .nothing

end Keyword

/-! ## Schemas -/

lemma itemChecks_eq (items : List Json) :
    itemChecks items = items.map fun schema => (schema, check schema) := by
  induction items with
  | nil => rw [itemChecks, List.map_nil]
  | cons schema rest ih => rw [itemChecks, ih, List.map_cons]

lemma memberChecks_eq (members : List (String × Json)) :
    memberChecks members = members.map fun m => (m.1, m.2, check m.2) := by
  induction members with
  | nil => rw [memberChecks, List.map_nil]
  | cons m rest ih =>
    obtain ⟨name, schema⟩ := m
    rw [memberChecks, ih, List.map_cons]

lemma check_obj_eq (members : List (String × Json)) :
    check (.obj members) = fun v => checkAll (keywordsOf members) v := by
  funext v
  unfold check
  rfl

lemma locates_accepting : Check.Locates (.bool true) (check (.bool true)) := by
  refine ⟨fun v => ?_, nofun⟩
  unfold check
  exact .nothing

lemma locates_refusing : Check.Locates (.bool false) (check (.bool false)) := by
  have hone : ∀ v, ∀ x ∈ (check (.bool false) v).violations, x.location = [] := by
    intro v x hx
    unfold check at hx
    rw [List.mem_singleton.1 hx]
  refine ⟨fun v x hx => ?_, fun _ => hone⟩
  rw [hone v x hx]
  exact ⟨v, .root⟩

/-- The keywords of a schema lead to the checks of smaller schemas. -/
lemma locates_of_mem_keywordsOf
    (ih : ∀ schema, sizeOf schema < sizeOf (Json.obj members) →
      Check.Locates schema (check schema)) :
    ∀ k ∈ keywordsOf members, k.Locates := by
  have hvalue : ∀ name value, (name, value) ∈ members → Check.Locates value (check value) :=
    fun _ value hmem => ih value (Json.sizeOf_member_lt hmem)
  have hitem : ∀ name items, (name, Json.arr items) ∈ members → ∀ item ∈ items,
      Check.Locates item (check item) := fun _ items hmem item h =>
    ih item (Nat.lt_trans (Json.sizeOf_item_lt h) (Json.sizeOf_member_lt hmem))
  have hmember : ∀ name inner, (name, Json.obj inner) ∈ members → ∀ m ∈ inner,
      Check.Locates m.2 (check m.2) := fun _ inner hmem m h =>
    ih m.2 (Nat.lt_trans (Json.sizeOf_member_lt h) (Json.sizeOf_member_lt hmem))
  clear ih
  -- the size of the object is of no use below: what is left of it are facts on each member
  induction members with
  | nil => exact fun k hk => absurd hk (by unfold keywordsOf; exact List.not_mem_nil)
  | cons m rest ih =>
    obtain ⟨name, value⟩ := m
    have hrest := ih (fun n v h => hvalue n v (List.mem_cons_of_mem _ h))
      (fun n l h => hitem n l (List.mem_cons_of_mem _ h))
      fun n l h => hmember n l (List.mem_cons_of_mem _ h)
    have hfirst := hvalue name value List.mem_cons_self
    cases value with
    | arr items =>
      unfold keywordsOf
      refine List.forall_mem_cons.2 ⟨⟨Check.locates_failed _ .noSchema, ?_, nofun⟩, hrest⟩
      rw [itemChecks_eq]
      exact List.forall_mem_map.2 (hitem name items List.mem_cons_self)
    | obj inner =>
      unfold keywordsOf
      refine List.forall_mem_cons.2 ⟨⟨?_, nofun, ?_⟩, hrest⟩
      · rwa [check_obj_eq] at hfirst
      · rw [memberChecks_eq]
        exact List.forall_mem_map.2 (hmember name inner List.mem_cons_self)
    | _ =>
      unfold keywordsOf
      exact List.forall_mem_cons.2 ⟨⟨hfirst, nofun, nofun⟩, hrest⟩

/-- A schema finds violations at parts of values. -/
theorem locates_check (schema : Json) : Check.Locates schema (check schema) := by
  -- by size: the keywords of an object hold the smaller schemas
  induction schema using Json.induction_on_size with
  | h schema ih =>
    cases schema with
    | bool accepts =>
      cases accepts with
      | true => exact locates_accepting
      | false => exact locates_refusing
    | obj members =>
      have hkeywords := locates_of_mem_keywordsOf ih
      rw [check_obj_eq]
      refine ⟨fun v => ?_, nofun⟩
      exact .all_map fun k hk => Keyword.located_check hkeywords (hkeywords k hk) v
    | _ =>
      refine ⟨fun v => ?_, nofun⟩
      unfold check
      exact .failed .noSchema

/-- The violations of a schema by a value are at parts of the value. -/
theorem located_of_violations {schema v : Json} {found : List Violation}
    (h : violations schema v = .ok found) :
    ∀ x ∈ found, ∃ part, Json.PartAt part v x.location := by
  obtain ⟨-, rfl⟩ := violations_eq_ok_iff.1 h
  exact fun x hx => (locates_check schema).located v x (List.mem_mergeSort.1 hx)

end SlideContract.Schema
