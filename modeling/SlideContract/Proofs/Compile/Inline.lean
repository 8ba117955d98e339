import SlideContract.Proofs.Chain.Cleared
import SlideContract.Proofs.Compile.Reading
import SlideContract.Proofs.Compile.Suffix

/-!
# References and what stands inline

A chain may name a declaration or have its text written out. Both are compiled alike if the calls
behind it say nothing that the declared chain would take up: behind a name they are not looked at,
up to the first array around it.

* `compile_byName`: the type of a reference is that of the declaration;
* `compile_inline_iff`: when a declaration gives the same type inline.
-/

namespace SlideContract.Compile
open Scan Text Chain

variable {ctx : Context} {visiting : List String} {text : List Char} {calls more : List Call}
  {levels : ℕ}

/-! ## Reading spelled chains -/

/-- A spelled chain is compiled as its calls without defaults say. -/
lemma compile_of_spells (h : Spells Nested text calls) (levels : ℕ) (visiting : List String) :
    compile ctx (levels + 1) visiting text
      = callsType ctx (compile ctx levels) visiting (trim (withoutDefaults text))
        (cleared calls) := by
  rw [compile_eq, h.withoutDefaults.trim.parse_eq, Option.getD_some]

lemma isOptional_of_spells {settings : Settings} (h : Spells Nested text calls) :
    isOptional settings text
      = ((cleared calls).drop (Kind.headLength settings (cleared calls))).any marksOptional := by
  unfold isOptional
  simp only [h.withoutDefaults.trim.parse_eq]

/-- The call sets no default, and there is none in its argument list. -/
def IsClear (call : Call) : Prop := call.setsDefault = false ∧ call.cleared = call

lemma clearedRest_of_isClear (h : ∀ call ∈ calls, IsClear call) : clearedRest calls = calls := by
  induction calls with
  | nil => rfl
  | cons call rest ih =>
    obtain ⟨hsets, hcleared⟩ := h call List.mem_cons_self
    have hrest := ih fun c hc => h c (List.mem_cons_of_mem _ hc)
    unfold clearedRest at hrest ⊢
    simp [hsets, hcleared, hrest]

lemma isClear_of_mem_clearedRest (h : ∀ call ∈ calls, NestedArgs call) :
    ∀ call ∈ clearedRest calls, IsClear call := by
  intro call hcall
  obtain ⟨call', hmem, rfl⟩ := List.mem_map.1 hcall
  obtain ⟨hmem', hsets⟩ := List.mem_filter.1 hmem
  refine ⟨?_, Call.cleared_cleared (h call' hmem')⟩
  rw [Call.setsDefault_cleared]
  simpa using hsets

/-! ## Declarations -/

/-- The table declares a name with a text that spells calls, of which more than the bare namespace
is left without defaults. -/
structure Declares (ctx : Context) (name : String) (text : List Char) (calls : List Call) :
    Prop where
  entry : Entries.get? name ctx.table = some text
  spells : Spells Nested text calls
  head : Kind.headLength ctx.settings (cleared calls) ≤ (cleared calls).length
  identifier : IsIdentifier name.toList
  other : name ≠ ctx.settings.builderNamespace

/-- The calls `more` behind a reference to the chain `calls` of type `type` would change nothing
behind the chain itself: what stands before the first array modifies no type, and nothing is wrapped
that is unknown. -/
structure Keeps (ctx : Context) (calls more : List Call) (type : TypeTree) : Prop where
  known : Kind.ofChain ctx.table ctx.settings calls = .unknown → ∀ call ∈ more, call.wraps = false
  modified : RefersTo ctx calls ∨ modify type (more.takeWhile fun call => !call.wraps) = .ok type

lemma cleared_ne_nil (h : Spells Nested text calls) : cleared calls ≠ [] := by
  cases h with
  | chain _ _ => exact List.cons_ne_nil _ _

variable {name : String} {declared : List Char} {bound : ℕ} {type tree : TypeTree}

lemma kind_reference (h : Entries.get? name ctx.table = some declared) (more : List Call) :
    Kind.ofChain ctx.table ctx.settings (⟨name, none⟩ :: more) = .reference := by
  have hentry : Entries.has name ctx.table = true := by
    unfold Entries.has
    rw [h]
    rfl
  simp only [Kind.ofChain, hentry]
  rfl

lemma headLength_reference (h : name ≠ ctx.settings.builderNamespace) (more : List Call) :
    Kind.headLength ctx.settings (⟨name, none⟩ :: more) = 1 := by
  have hnamespace : Kind.isNamespace ctx.settings ⟨name, none⟩ = false := by
    simp [Kind.isNamespace, h]
  simp [Kind.headLength, hnamespace]

/-- The type of a reference is that of the declaration, on the next level. -/
lemma callsType_reference (h : Declares ctx name declared calls)
    (hmore : ∀ call ∈ more, call.wraps = false) {inner : List String → List Char → Run TypeTree} :
    callsType ctx inner visiting text (⟨name, none⟩ :: more)
      = referenceType inner ctx.table visiting name := by
  have hkind := kind_reference h.entry more
  have hsuffix : arraySuffix? ctx.settings (⟨name, none⟩ :: more) = none := by
    have hsingle : arraySuffix? ctx.settings [⟨name, none⟩] = none := by
      apply arraySuffix?_head
      rw [headLength_reference h.other]
      rfl
    rw [← List.singleton_append, arraySuffix?_append (List.cons_ne_nil _ _) hmore]
    exact hsingle
  unfold callsType chainType
  rw [hkind, hsuffix]
  rfl

/-- A reference that no guard cuts off has the run of the declaration behind it. -/
lemma compile_byName (h : Declares ctx name declared calls)
    (hmore : ∀ call ∈ more, call.wraps = false) {byName : List Char} {others : List Call}
    (hspells : Spells Nested byName others) (hothers : cleared others = ⟨name, none⟩ :: more)
    (hguard : (compile ctx (levels + 1) visiting byName).Unguarded) :
    (compile ctx levels (name :: visiting) declared).Unguarded ∧
      (compile ctx (levels + 1) visiting byName).result
        = (compile ctx levels (name :: visiting) declared).result := by
  rw [compile_of_spells hspells, hothers, callsType_reference h hmore] at hguard ⊢
  unfold referenceType at hguard ⊢
  split at hguard
  · exact absurd hguard (Run.not_avoids_emit rfl)
  · rename_i hvisiting
    rw [if_neg hvisiting]
    rw [h.entry, Option.getD_some] at hguard ⊢
    exact ⟨(Run.avoids_bind_iff.1 hguard).2 () rfl, rfl⟩

/-- A run that no guard cuts off has a level left. -/
lemma exists_levels (h : (compile ctx levels visiting text).Unguarded) : ∃ k, levels = k + 1 := by
  cases levels with
  | succ k => exact ⟨k, rfl⟩
  | zero => exact absurd h (Run.not_avoids_emit rfl)

lemma takeWhile_wraps {front back : List Call} {call : Call} (h : call.wraps = true) :
    (front ++ call :: back).takeWhile (fun call => !call.wraps)
      = front.takeWhile fun call => !call.wraps := by
  induction front with
  | nil => simp [h]
  | cons head rest ih =>
    rw [List.cons_append, List.takeWhile_cons, List.takeWhile_cons, ih]

lemma Keeps.iff_wraps {front back : List Call} {call : Call} (h : call.wraps = true)
    (hknown : Kind.ofChain ctx.table ctx.settings calls ≠ .unknown) :
    Keeps ctx calls (front ++ call :: back) type ↔ Keeps ctx calls front type := by
  have hsame := @takeWhile_wraps front back call h
  constructor
  · intro hkeeps
    refine ⟨fun hunknown => absurd hunknown hknown, ?_⟩
    rw [← hsame]
    exact hkeeps.modified
  · intro hkeeps
    refine ⟨fun hunknown => absurd hunknown hknown, ?_⟩
    rw [hsame]
    exact hkeeps.modified

/-- An array of what one text describes is the array of what another describes exactly if these are
the same. -/
lemma array_result_iff {items items' : Run TypeTree} {modifiers : List Call}
    (h : (arrayOf items modifiers).result = .ok tree) :
    ∃ tree', items.result = .ok tree' ∧
      ((arrayOf items' modifiers).result = .ok tree ↔ items'.result = .ok tree') := by
  unfold arrayOf at h ⊢
  obtain ⟨tree', hitems, h⟩ := Run.result_bind_eq_ok.1 h
  obtain ⟨b, hb, h⟩ := Run.result_bind_eq_ok.1 h
  rw [Run.result_pure, Except.ok.injEq] at h
  refine ⟨tree', hitems, ?_⟩
  rw [Run.result_bind_eq_ok, ← h]
  constructor
  · rintro ⟨other, hother, hresult⟩
    obtain ⟨b', -, hresult⟩ := Run.result_bind_eq_ok.1 hresult
    rw [Run.result_pure, Except.ok.injEq, TypeTree.array.injEq, Option.some.injEq] at hresult
    rw [hother, hresult.1]
  · intro hother
    exact ⟨tree', hother, Run.result_bind_eq_ok.2 ⟨b, hb, rfl⟩⟩

/-- Without an array around it, a declaration gives the same type inline exactly if the modifiers
behind it change nothing. -/
lemma compile_inline_iff_of_forall (h : Declares ctx name declared calls)
    (hmore : ∀ call ∈ more, call.wraps = false) (hlevels : levels ≤ bound)
    {byName inline : List Char} {others inlined : List Call}
    (hbyName : Spells Nested byName others) (hothers : cleared others = ⟨name, none⟩ :: more)
    (hinline : Spells Nested inline inlined) (hinlined : cleared inlined = cleared calls ++ more)
    (hguard : (compile ctx (levels + 1) visiting byName).Unguarded)
    (hresult : (compile ctx (levels + 1) visiting byName).result = .ok tree) :
    (compile ctx bound (name :: visiting) declared).result = .ok tree ∧
      ((compile ctx (levels + 1) visiting inline).result = .ok tree ↔
        Keeps ctx (cleared calls) more tree) := by
  have hne := cleared_ne_nil h.spells
  have hall : (more.takeWhile fun call => !call.wraps) = more := by
    rw [List.takeWhile_eq_self_iff]
    intro call hcall
    rw [hmore call hcall]
    rfl
  obtain ⟨hunguarded, heq⟩ := compile_byName h hmore hbyName hothers hguard
  rw [heq] at hresult
  -- the declaration has its type on every level on which no guard strikes
  have htype : (compile ctx bound (name :: visiting) declared).result = .ok tree := by
    rw [compile_of_unguarded hlevels (List.Subset.refl _) hunguarded]
    exact hresult
  refine ⟨htype, ?_⟩
  -- inline the calls are read one level higher, with the declaration not under way
  obtain ⟨k, rfl⟩ := exists_levels hunguarded
  rw [compile_of_spells h.spells] at hunguarded hresult
  have hagrees := callsType_agrees (agrees_of_le (Nat.le_succ k))
    (.of_subset (fun _ => rfl) (List.subset_cons_self name visiting)) hunguarded
  rw [← hagrees] at hresult
  have hinner : ∀ text, (callsType ctx (compile ctx (k + 1)) visiting text (cleared calls)).result
      = .ok tree := fun text => (result_callsType text _ _).trans hresult
  rw [compile_of_spells hinline, hinlined]
  by_cases hrefers : RefersTo ctx (cleared calls)
  · rw [callsType_append_of_refersTo hne h.head hmore hrefers]
    exact ⟨fun _ => ⟨fun _ => hmore, Or.inl hrefers⟩, fun _ => hinner _⟩
  · rw [callsType_append hne h.head hmore hrefers, Run.result_bind_eq_ok]
    constructor
    · rintro ⟨type, htype, hmodify⟩
      rw [hinner, Except.ok.injEq] at htype
      subst htype
      refine ⟨fun _ => hmore, Or.inr ?_⟩
      rw [hall]
      exact Run.result_ofDigits_eq_ok.1 hmodify
    · intro hkeeps
      have hmodify := hkeeps.modified.resolve_left hrefers
      rw [hall] at hmodify
      exact ⟨tree, hinner _, Run.result_ofDigits_eq_ok.2 hmodify⟩

/-- With an array around it, a declaration gives the same type inline exactly if it is of a known
kind and gives the same items. -/
lemma compile_inline_iff_of_wraps (h : Declares ctx name declared calls) {front back : List Call}
    {call : Call} (hcall : call.wraps = true) (hback : ∀ call ∈ back, call.wraps = false)
    {byName inline : List Char} {others inlined : List Call} (hbyName : Spells Nested byName others)
    (hothers : cleared others = ⟨name, none⟩ :: (front ++ call :: back))
    (hinline : Spells Nested inline inlined)
    (hinlined : cleared inlined = cleared calls ++ (front ++ call :: back))
    (hguard : (compile ctx (levels + 1) visiting byName).Unguarded)
    (hresult : (compile ctx (levels + 1) visiting byName).result = .ok tree) :
    ∃ items, (compile ctx levels visiting (render (⟨name, none⟩ :: front))).Unguarded ∧
      (compile ctx levels visiting (render (⟨name, none⟩ :: front))).result = .ok items ∧
      ((compile ctx (levels + 1) visiting inline).result = .ok tree ↔
        Kind.ofChain ctx.table ctx.settings (cleared calls) ≠ .unknown ∧
          (compile ctx levels visiting (render (cleared calls ++ front))).result = .ok items) := by
  have hne := cleared_ne_nil h.spells
  have hne' : cleared calls ++ front ≠ [] := fun hnil => hne (List.append_eq_nil_iff.1 hnil).1
  have hhead : Kind.headLength ctx.settings (cleared calls ++ front)
      ≤ (cleared calls ++ front).length := by
    rw [headLength_append hne, List.length_append]
    exact h.head.trans (Nat.le_add_right _ _)
  have hkind := @ofChain_append _ front ctx hne h.head
  have hreference : Kind.ofChain ctx.table ctx.settings (⟨name, none⟩ :: front) ≠ .unknown := by
    rw [kind_reference h.entry]
    decide
  have hhead' : Kind.headLength ctx.settings (⟨name, none⟩ :: front)
      ≤ ((⟨name, none⟩ : Call) :: front).length := by
    rw [headLength_reference h.other, List.length_cons]
    exact Nat.le_add_left _ _
  -- both sides are an array around the calls in front of `call`, so what is compared is its items
  have harray := @callsType_wraps _ back call ctx (compile ctx levels) visiting
    (trim (withoutDefaults byName)) (List.cons_ne_nil ⟨name, none⟩ front) hhead' hreference hcall
    hback
  rw [compile_of_spells hbyName, hothers, ← List.cons_append, harray] at hguard hresult
  rw [compile_of_spells hinline, hinlined, ← List.append_assoc]
  obtain ⟨items, hitems, hiff⟩ :=
    @array_result_iff tree _ (compile ctx levels visiting (render (cleared calls ++ front))) _
      hresult
  refine ⟨items, (Run.avoids_bind_iff.1 hguard).1, hitems, ?_⟩
  by_cases hunknown : Kind.ofChain ctx.table ctx.settings (cleared calls) = .unknown
  · -- inline the whole chain is unknown, and no array
    have hunknown' : Kind.ofChain ctx.table ctx.settings
        (cleared calls ++ front ++ call :: back) = .unknown := by
      rw [ofChain_append hne' hhead, hkind, hunknown]
    rw [result_callsType_unknown hunknown']
    constructor
    · intro htree
      obtain ⟨items, -, hresult⟩ := Run.result_bind_eq_ok.1 hresult
      obtain ⟨b, -, hresult⟩ := Run.result_bind_eq_ok.1 hresult
      rw [Run.result_pure, ← htree] at hresult
      exact absurd hresult (by simp)
    · exact fun hknown => absurd hunknown hknown.1
  · rw [callsType_wraps hne' hhead (by rw [hkind]; exact hunknown) hcall hback, hiff]
    exact ⟨fun hinner => ⟨hunknown, hinner⟩, fun hinner => hinner.2⟩

/-- Clear calls behind a name are spelled as they stand. -/
lemma Declares.spells_reference (h : Declares ctx name declared calls)
    (hmore : ∀ call ∈ more, call.Legible Nested ∧ IsClear call) :
    Spells Nested (render (⟨name, none⟩ :: more)) (⟨name, none⟩ :: more) ∧
      cleared (⟨name, none⟩ :: more) = ⟨name, none⟩ :: more := by
  refine ⟨spells_render ?_ (List.cons_ne_nil _ _), ?_⟩
  · intro call hcall
    rcases List.mem_cons.1 hcall with rfl | hcall
    · exact ⟨h.identifier, fun args hargs => absurd hargs (by simp)⟩
    · exact (hmore call hcall).1
  · rw [cleared, clearedRest_of_isClear fun call hcall => (hmore call hcall).2]
    rfl

/-- And so they are behind what is left of the declared chain. -/
lemma Declares.spells_append (h : Declares ctx name declared calls)
    (hmore : ∀ call ∈ more, call.Legible Nested ∧ IsClear call) :
    Spells Nested (render (cleared calls ++ more)) (cleared calls ++ more) ∧
      cleared (cleared calls ++ more) = cleared calls ++ more := by
  have hne := cleared_ne_nil h.spells
  refine ⟨spells_render ?_ (List.append_ne_nil_of_left_ne_nil hne _), ?_⟩
  · intro call hcall
    rcases List.mem_append.1 hcall with hcall | hcall
    · exact h.spells.withoutDefaults.legible call hcall
    · exact (hmore call hcall).1
  · rw [cleared_append hne, clearedRest_of_isClear fun call hcall => (hmore call hcall).2,
      cleared_cleared fun call hcall => (h.spells.legible call hcall).args]

/-- A declaration of some type gives the same inline as by its name exactly if what stands behind it
keeps that type. -/
theorem compile_inline_iff (h : Declares ctx name declared calls)
    (hmore : ∀ call ∈ more, call.Legible Nested ∧ IsClear call) (hlevels : levels ≤ bound)
    {byName inline : List Char} {others inlined : List Call}
    (hbyName : Spells Nested byName others) (hothers : cleared others = ⟨name, none⟩ :: more)
    (hinline : Spells Nested inline inlined) (hinlined : cleared inlined = cleared calls ++ more)
    (hguard : (compile ctx (levels + 1) visiting byName).Unguarded)
    (hresult : (compile ctx (levels + 1) visiting byName).result = .ok tree) :
    ∃ type, (compile ctx bound (name :: visiting) declared).result = .ok type ∧
      ((compile ctx (levels + 1) visiting inline).result = .ok tree ↔
        Keeps ctx (cleared calls) more type) := by
  induction hlength : more.length using Nat.strong_induction_on
    generalizing more levels byName inline others inlined tree with
  | _ n ih =>
    by_cases hwraps : ∃ call ∈ more, call.wraps = true
    · obtain ⟨front, call, back, rfl, hcall, hback⟩ := exists_last_wraps hwraps
      obtain ⟨items, hinner, hitems, hiff⟩ := compile_inline_iff_of_wraps h hcall hback hbyName
        hothers hinline hinlined hguard hresult
      obtain ⟨k, rfl⟩ := exists_levels hinner
      have hfront : ∀ call ∈ front, call.Legible Nested ∧ IsClear call :=
        fun call hcall => hmore call (List.mem_append_left _ hcall)
      obtain ⟨hreference, hreference'⟩ := h.spells_reference hfront
      obtain ⟨hdeclared, hdeclared'⟩ := h.spells_append hfront
      have hshorter : front.length < n := by
        rw [← hlength, List.length_append, List.length_cons]
        omega
      -- the items are the same question one level further down
      obtain ⟨type, htype, hitems'⟩ := ih front.length hshorter hfront (Nat.le_of_succ_le hlevels)
        hreference hreference' hdeclared hdeclared' hinner hitems rfl
      refine ⟨type, htype, ?_⟩
      rw [hiff, hitems']
      by_cases hunknown : Kind.ofChain ctx.table ctx.settings (cleared calls) = .unknown
      · refine ⟨fun hkeeps => absurd hunknown hkeeps.1, fun hkeeps => ?_⟩
        have hnone := hkeeps.known hunknown call (by simp)
        rw [hcall] at hnone
        exact absurd hnone (by decide)
      · rw [Keeps.iff_wraps hcall hunknown]
        exact ⟨fun hkeeps => hkeeps.2, fun hkeeps => ⟨hunknown, hkeeps⟩⟩
    · have hnone : ∀ call ∈ more, call.wraps = false := fun call hcall =>
        Bool.eq_false_iff.2 fun hcall' => hwraps ⟨call, hcall, hcall'⟩
      exact ⟨tree, compile_inline_iff_of_forall h hnone hlevels hbyName hothers hinline hinlined
        hguard hresult⟩

end SlideContract.Compile
