import SlideContract.Proofs.Compile.Sublist
import SlideContract.Proofs.Entries

/-!
# What compiling gives

Whatever an expression says, one level of compilation gives one of a few shapes of trees. `Built`
lists them, with what is known of each: bounds are set by calls of the chain, the names of an
object's properties are distinct, and its required names are among them.

* `built_of_callsType`: one level gives such a tree;
* `built_of_compile`: so does every compilation, with trees of the level below inside, and every
  chain on the way is part of what was written.
-/

namespace SlideContract.Compile

open scoped List

/-- The trees that one level of compilation gives to the calls of a chain, where `sub` holds of what
is nested below. -/
inductive Built (calls : List Call) (sub : TypeTree → Prop) : TypeTree → Prop where
  | inner {tree : TypeTree} (h : sub tree) : Built calls sub tree
  | unknown : Built calls sub .unknown
  | string {b : Bounds} (n : ℕ) (h : lengthBounds (calls.drop n) = .ok b) :
    Built calls sub (.string b)
  | number {b : Bounds} (n : ℕ) (h : rangeBounds (calls.drop n) = .ok b) :
    Built calls sub (.number b)
  | boolean : Built calls sub .boolean
  | enum (values : List String) : Built calls sub (.enum values)
  | array {items : TypeTree} {b : Bounds} (hitems : sub items ∨ items = .unknown) (n : ℕ)
    (h : sizeBounds (calls.drop n) = .ok b) : Built calls sub (.array (some items) b)
  | object {properties : List (String × TypeTree)} {required : List String}
    (nodup : (Entries.names properties).Nodup)
    (defined : ∀ name ∈ required, name ∈ Entries.names properties)
    (h : ∀ property ∈ properties, sub property.2) : Built calls sub (.object properties required)

variable {sub : TypeTree → Prop} {tree : TypeTree} {calls : List Call}

/-! ## Names of required properties -/

lemma mem_insertName {name other : String} {names : List String} :
    other ∈ TypeTree.insertName name names ↔ other = name ∨ other ∈ names := by
  induction names with
  | nil => simp [TypeTree.insertName]
  | cons n rest ih =>
    unfold TypeTree.insertName
    split
    · simp
    · split
      · rename_i heq
        rw [heq]
        simp
      · rw [List.mem_cons, ih, List.mem_cons]
        tauto

/-! ## Objects -/

/-- What holds of the fields of an object that are compiled so far. -/
structure ShapeHolds (sub : TypeTree → Prop) (shape : Shape) : Prop where
  nodup : (Entries.names shape.properties).Nodup
  defined : ∀ name ∈ shape.required, name ∈ Entries.names shape.properties
  properties : ∀ property ∈ shape.properties, sub property.2

lemma ShapeHolds.empty : ShapeHolds sub {} where
  nodup := List.nodup_nil
  defined _ h := absurd h List.not_mem_nil
  properties _ h := absurd h List.not_mem_nil

variable {inner : List Char → Run TypeTree}

/-- One more entry keeps the names distinct and the required ones among them. -/
lemma ShapeHolds.addEntry {settings : Settings} {shape shape' : Shape} {entry : List Char}
    (hinner : ∀ field, field? entry = some field →
      ∀ tree, (inner field.expression).result = .ok tree → sub tree)
    (hshape : ShapeHolds sub shape)
    (h : (addEntry inner settings shape entry).result = .ok shape') : ShapeHolds sub shape' := by
  unfold Compile.addEntry at h
  split at h
  · obtain ⟨_, -, h⟩ := Run.result_bind_eq_ok.1 h
    rw [Run.result_pure, Except.ok.injEq] at h
    exact h ▸ hshape
  · rename_i field hfield
    obtain ⟨t, ht, h⟩ := Run.result_bind_eq_ok.1 h
    rw [Run.result_pure, Except.ok.injEq] at h
    rw [← h]
    refine ⟨Entries.nodup_names_set hshape.nodup, ?_, ?_⟩
    · intro name hname
      show name ∈ Entries.names (Entries.set _ t shape.properties)
      rw [Entries.mem_names_set]
      -- a required name is the new one or was required before
      have hor : name = String.ofList field.name ∨ name ∈ shape.required := by
        simp only at hname
        split at hname
        · exact Or.inr (List.mem_of_mem_filter hname)
        · exact (mem_insertName.1 hname).imp id List.mem_of_mem_filter
      exact hor.imp id (hshape.defined name)
    · intro property hproperty
      rcases Entries.mem_set hproperty with rfl | hold
      · exact hinner field hfield t ht
      · exact hshape.properties property hold

lemma ShapeHolds.foldlM {settings : Settings} {entries : List (List Char)} {shape shape' : Shape}
    (hinner : ∀ entry ∈ entries, ∀ field, field? entry = some field →
      ∀ tree, (inner field.expression).result = .ok tree → sub tree)
    (hshape : ShapeHolds sub shape)
    (h : (entries.foldlM (Compile.addEntry inner settings) shape).result = .ok shape') :
    ShapeHolds sub shape' := by
  induction entries generalizing shape with
  | nil =>
    rw [List.foldlM_nil, Run.result_pure, Except.ok.injEq] at h
    exact h ▸ hshape
  | cons entry rest ih =>
    rw [List.foldlM_cons] at h
    obtain ⟨next, hnext, h⟩ := Run.result_bind_eq_ok.1 h
    exact ih (fun e he => hinner e (List.mem_cons_of_mem _ he))
      (hshape.addEntry (hinner entry List.mem_cons_self) hnext) h

lemma built_of_objectType {settings : Settings} {constructor : Call} {modifiers : List Call}
    (hinner : ∀ field ∈ fieldTexts (firstArgument constructor.args),
      ∀ tree, (inner field).result = .ok tree → sub tree)
    (h : (objectType inner settings constructor modifiers).result = .ok tree) :
    Built calls sub tree := by
  unfold objectType at h
  simp only at h
  split at h
  · obtain ⟨_, -, h⟩ := Run.result_bind_eq_ok.1 h
    rw [Run.result_pure, Except.ok.injEq] at h
    rw [← h]
    exact .object List.nodup_nil (by simp) (by simp)
  · rename_i body hbody
    obtain ⟨shape, hshape, h⟩ := Run.result_bind_eq_ok.1 h
    rw [Run.result_pure, Except.ok.injEq] at h
    -- the fold over the entries keeps what the shape holds, starting from the empty one
    have hold : ShapeHolds sub shape := by
      refine ShapeHolds.empty.foldlM (fun entry hentry field hfield => hinner _ ?_) hshape
      unfold fieldTexts
      rw [hbody]
      exact List.mem_map_of_mem (List.mem_filterMap.2 ⟨entry, hentry, hfield⟩)
    rw [← h]
    refine .object hold.nodup ?_ hold.properties
    intro name hname
    split at hname
    · simp at hname
    · exact hold.defined name hname

/-! ## Arrays -/

lemma built_of_arrayType {constructor : Call} {n : ℕ}
    (hinner : firstArgument constructor.args ≠ [] →
      ∀ tree, (inner (firstArgument constructor.args)).result = .ok tree → sub tree)
    (h : (arrayType inner constructor (calls.drop n)).result = .ok tree) :
    Built calls sub tree := by
  -- whatever its items are, the array has the bounds of its modifiers
  have hitems : ∀ items, sub items ∨ items = .unknown →
      (do return .array (some items) (← Run.ofDigits (sizeBounds (calls.drop n))) :
        Run TypeTree).result = .ok tree → Built calls sub tree := by
    intro items hitems h
    obtain ⟨b, hb, h⟩ := Run.result_bind_eq_ok.1 h
    rw [Run.result_pure, Except.ok.injEq] at h
    exact h ▸ .array hitems n (Run.result_ofDigits_eq_ok.1 hb)
  unfold arrayType at h
  simp only at h
  split at h
  · obtain ⟨_, -, h⟩ := Run.result_bind_eq_ok.1 h
    exact hitems _ (Or.inr rfl) h
  · rename_i hfull
    have hne : firstArgument constructor.args ≠ [] := by simpa using hfull
    obtain ⟨items, hsub, h⟩ := Run.result_bind_eq_ok.1 h
    exact hitems items (Or.inl (hinner hne _ hsub)) h

/-! ## Enumerations -/

lemma built_of_enumType {constructor : Call} {text : List Char}
    (h : (enumType constructor text).result = .ok tree) : Built calls sub tree := by
  unfold enumType at h
  simp only at h
  split at h
  · split at h
    · rw [Run.result_pure, Except.ok.injEq] at h
      exact h ▸ .enum _
    · obtain ⟨_, -, h⟩ := Run.result_bind_eq_ok.1 h
      rw [Run.result_pure, Except.ok.injEq] at h
      exact h ▸ .unknown
  · split at h
    · rw [Run.result_pure, Except.ok.injEq] at h
      exact h ▸ .enum _
    · obtain ⟨_, -, h⟩ := Run.result_bind_eq_ok.1 h
      rw [Run.result_pure, Except.ok.injEq] at h
      exact h ▸ .enum _

/-! ## Expressions -/

variable {ctx : Context} {nested : List String → List Char → Run TypeTree} {visiting : List String}
  {text : List Char}

lemma built_of_referenceType {name : String}
    (hnested : ∀ tree, (nested (name :: visiting)
      ((Entries.get? name ctx.table).getD [])).result = .ok tree → sub tree)
    (h : (referenceType nested ctx.table visiting name).result = .ok tree) :
    Built calls sub tree := by
  unfold referenceType at h
  split at h
  · obtain ⟨_, -, h⟩ := Run.result_bind_eq_ok.1 h
    rw [Run.result_pure, Except.ok.injEq] at h
    exact h ▸ .unknown
  · obtain ⟨_, -, h⟩ := Run.result_bind_eq_ok.1 h
    exact .inner (hnested _ h)

lemma built_of_chainType
    (hparts : ∀ part ∈ chainParts ctx calls,
      ∀ tree, (nested visiting part).result = .ok tree → sub tree)
    (hreference : ∀ name tree, (nested (name :: visiting)
      ((Entries.get? name ctx.table).getD [])).result = .ok tree → sub tree)
    (h : (chainType ctx nested visiting text calls).result = .ok tree) : Built calls sub tree := by
  unfold chainParts at hparts
  unfold chainType at h
  simp only at hparts h
  -- one case for each kind of chain, which is what the constructors of `Built` follow
  split at h
  · exact built_of_referenceType (hreference _) h
  · obtain ⟨b, hb, h⟩ := Run.result_bind_eq_ok.1 h
    rw [Run.result_pure, Except.ok.injEq] at h
    exact h ▸ .string _ (Run.result_ofDigits_eq_ok.1 hb)
  · obtain ⟨b, hb, h⟩ := Run.result_bind_eq_ok.1 h
    rw [Run.result_pure, Except.ok.injEq] at h
    exact h ▸ .number _ (Run.result_ofDigits_eq_ok.1 hb)
  · rw [Run.result_pure, Except.ok.injEq] at h
    exact h ▸ .boolean
  · exact built_of_enumType h
  · rename_i hkind
    refine built_of_arrayType (fun hne => hparts _ ?_) h
    simpa [hkind] using hne
  · rename_i hkind
    refine built_of_objectType (fun field hfield => hparts _ ?_) h
    simpa [hkind] using hfield
  · rw [Run.result_pure, Except.ok.injEq] at h
    exact h ▸ .unknown

/-- One level of compilation gives one of the trees that are listed. -/
theorem built_of_callsType
    (hparts : ∀ part ∈ partsOf ctx calls,
      ∀ tree, (nested visiting part).result = .ok tree → sub tree)
    (hreference : ∀ name tree, (nested (name :: visiting)
      ((Entries.get? name ctx.table).getD [])).result = .ok tree → sub tree)
    (h : (callsType ctx nested visiting text calls).result = .ok tree) : Built calls sub tree := by
  unfold partsOf at hparts
  unfold callsType at h
  split at h
  · obtain ⟨_, -, h⟩ := Run.result_bind_eq_ok.1 h
    rw [Run.result_pure, Except.ok.injEq] at h
    exact h ▸ .unknown
  · rename_i hknown
    rw [if_neg hknown] at hparts
    split at h
    · rename_i place hplace
      rw [hplace] at hparts
      obtain ⟨items, hitems, h⟩ := Run.result_bind_eq_ok.1 h
      obtain ⟨b, hb, h⟩ := Run.result_bind_eq_ok.1 h
      rw [Run.result_pure, Except.ok.injEq] at h
      exact h ▸ .array (Or.inl (hparts _ List.mem_cons_self _ hitems)) _
        (Run.result_ofDigits_eq_ok.1 hb)
    · rename_i hplace
      rw [hplace] at hparts
      exact built_of_chainType hparts hreference h

/-- A property of trees that holds of every listed tree whose parts have it holds of every compiled
tree. The chains on the way are good if parts of good texts are, and the declarations. -/
theorem built_of_compile (good : List Char → Prop)
    (hdown : ∀ text part, part <+ text → good text → good part)
    (htable : ∀ declaration ∈ ctx.table, good declaration.2)
    (hbuilt : ∀ calls tree, good (Chain.render calls) → Built calls sub tree → sub tree)
    {levels : ℕ} (htext : good text)
    (h : (compile ctx levels visiting text).result = .ok tree) : sub tree := by
  -- by the levels: at the last the tree is unknown, at any other it is made of trees of the level
  -- below
  induction levels generalizing visiting text tree with
  | zero =>
    obtain ⟨_, -, h⟩ := Run.result_bind_eq_ok.1 h
    rw [Run.result_pure, Except.ok.injEq] at h
    exact h ▸ hbuilt [] _ (hdown _ _ (List.nil_sublist _) htext) .unknown
  | succ levels ih =>
    have hcalls := hdown _ _ (sublist_render_callsOf text) htext
    rw [compile_eq] at h
    refine hbuilt _ _ hcalls (built_of_callsType (fun part hpart _ => ?_) (fun name _ => ?_) h)
    · exact ih (hdown _ _ (sublist_of_mem_partsOf hpart) hcalls)
    · refine ih ?_
      cases hname : Entries.get? name ctx.table with
      | none => exact hdown _ _ (List.nil_sublist _) htext
      | some declared => exact htable _ (Entries.mem_of_get? hname)

end SlideContract.Compile
