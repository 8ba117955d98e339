import SlideContract.Proofs.Compile.Keyed

/-!
# Fields that name a declaration

The field of an object may name a declaration with calls behind it, or have the declared text in its
place. The object is the same exactly if the calls behind the name keep the declared type, and an
optional declaration is marked again where it is named.

* `compile_withField`: an object with one field has the type of the field;
* `inline_eq_iff`: when the two objects are the same.
-/

namespace SlideContract.Compile
open Scan Text Chain

variable {ctx : Context} {text : List Char} {calls : List Call}

/-! ## Objects with one field -/

/-- The shape of an object with one field. -/
def fieldShape (expression : List Char) : List Char :=
  '\x7b' :: ("f: ".toList ++ (expression ++ ['\x7d']))

/-- The expression of an object with one field. -/
def withField (builder : String) (expression : List Char) : List Char :=
  builder.toList ++ ".object(".toList ++ fieldShape expression ++ [')']

lemma withField_eq (builder : String) (expression : List Char) :
    withField builder expression = withBody builder (keyed ['f'] [] [' '] expression) := by
  simp [withField, fieldShape, withBody, braced, keyed]

lemma isKey_field : IsKey ['f'] ['f'] := .bare (isIdentifier_of_letters (by decide))

lemma blanks_space : Blanks [' '] := List.forall_mem_singleton.2 (by decide)

/-- An object with one field has the type of the field, on the next level. -/
theorem compile_withField (hbuilder : IsIdentifier ctx.settings.builderNamespace.toList)
    (htable : Entries.has ctx.settings.builderNamespace ctx.table = false)
    (h : Spells Nested text calls)
    (levels : ℕ) (visiting : List String) :
    compile ctx (levels + 1) visiting (withField ctx.settings.builderNamespace text) = (do
      let tree ← compile ctx levels visiting (trim (withoutDefaults text))
      return .object [("f", tree)]
        (if isOptional ctx.settings (trim (withoutDefaults text)) then [] else ["f"])) := by
  rw [withField_eq]
  exact compile_keyed hbuilder htable isKey_field blanks_nil blanks_space h levels visiting

/-- If the builder's namespace is itself declared, no object is described, whatever its field is. -/
lemma compile_withField_of_has (hbuilder : IsIdentifier ctx.settings.builderNamespace.toList)
    (htable : Entries.has ctx.settings.builderNamespace ctx.table = true) (h : Nested text)
    (levels : ℕ) (visiting : List String) :
    compile ctx (levels + 1) visiting (withField ctx.settings.builderNamespace text)
      = referenceType (compile ctx levels) ctx.table visiting ctx.settings.builderNamespace := by
  rw [withField_eq]
  exact compile_withBody_of_has hbuilder htable
    (nested_keyed isKey_field blanks_nil blanks_space h) levels visiting

/-! ## By name and inline -/

variable {name : String} {declared modifiers : List Char} {others : List Call}
  {visiting : List String} {depth : ℤ} {type tree : TypeTree}

/-- What stands behind a name are the parts behind the first one. -/
lemma spellsRest_of_name (hname : IsIdentifier name.toList)
    (h : Spells Nested (name.toList ++ modifiers) (⟨name, none⟩ :: others)) :
    SpellsRest Nested modifiers others := by
  generalize htext : name.toList ++ modifiers = text at h
  cases h with
  | @chain part rest call calls hpart hrest =>
    generalize hcall : (⟨name, none⟩ : Call) = call at hpart
    cases hpart with
    | called _ _ _ _ => exact absurd (congrArg Call.args hcall) (by simp)
    | @bare lead name' hlead hname' =>
      have hdrop := congrArg dropBlanks htext
      rw [dropBlanks_of_starts (hname.starts _), List.append_assoc, dropBlanks_append hlead,
        dropBlanks_of_starts (hname'.starts _)] at hdrop
      have hsame : name.toList = name' := by
        have heq : name = String.ofList name' := congrArg Call.name hcall
        rw [heq, String.toList_ofList]
      rw [hsame, List.append_cancel_left_eq] at hdrop
      rw [hdrop]
      exact hrest

/-- The calls of a chain hold a mark of an optional type behind its head. -/
def marked (settings : Settings) (calls : List Call) : Bool :=
  (calls.drop (Kind.headLength settings calls)).any marksOptional

lemma marked_append {settings : Settings} {more : List Call}
    (hne : calls ≠ []) (hhead : Kind.headLength settings calls ≤ calls.length) :
    marked settings (calls ++ more) = (marked settings calls || more.any marksOptional) := by
  unfold marked
  rw [headLength_append hne, List.drop_append_of_le_length hhead, List.any_append]

lemma isOptional_eq_marked {settings : Settings} (h : Spells Nested text calls) :
    isOptional settings (trim (withoutDefaults text)) = marked settings (cleared calls) := by
  rw [isOptional_of_spells h.withoutDefaults.trim,
    cleared_cleared fun call hcall => (h.legible call hcall).args]
  rfl

/-- A chain that is not the bare namespace has its whole head. -/
lemma headLength_le {settings : Settings} (hne : calls ≠ [])
    (hbare : calls ≠ [⟨settings.builderNamespace, none⟩]) :
    Kind.headLength settings calls ≤ calls.length := by
  cases calls with
  | nil => exact absurd rfl hne
  | cons head rest =>
    cases rest with
    | cons constructor rest =>
      simp only [Kind.headLength, List.length_cons]
      split <;> omega
    | nil =>
      have hnamespace : Kind.isNamespace settings head = false := by
        rw [Bool.eq_false_iff]
        intro hnamespace
        unfold Kind.isNamespace at hnamespace
        rw [Bool.and_eq_true, beq_iff_eq, Option.isNone_iff_eq_none] at hnamespace
        obtain ⟨name, args⟩ := head
        obtain ⟨rfl, rfl⟩ := hnamespace
        exact hbare rfl
      simp [Kind.headLength, hnamespace]

/-- The levels that remain two levels further down. -/
lemma levels_add_two {settings : Settings} {k : ℕ} (h : levels settings depth = k + 2) :
    levels settings (depth + 2) = k := by
  unfold levels at h ⊢
  omega

/-- An object with one field is that of another type exactly if the field has the same type and is
optional alike. -/
lemma withField_result_iff {field field' : Run TypeTree} {optional optional' : Bool}
    (h : (do
      let tree ← field
      return TypeTree.object [("f", tree)] (if optional then [] else ["f"])).result = .ok tree) :
    ∃ type, field.result = .ok type ∧
      ((do
        let tree ← field'
        return TypeTree.object [("f", tree)] (if optional' then [] else ["f"])).result = .ok tree ↔
          field'.result = .ok type ∧ optional' = optional) := by
  obtain ⟨type, htype, h⟩ := Run.result_bind_eq_ok.1 h
  rw [Run.result_pure, Except.ok.injEq] at h
  refine ⟨type, htype, ?_⟩
  rw [Run.result_bind_eq_ok, ← h]
  constructor
  · rintro ⟨type', htype', hresult⟩
    rw [Run.result_pure, Except.ok.injEq, TypeTree.object.injEq, List.cons.injEq, Prod.mk.injEq]
      at hresult
    obtain ⟨⟨⟨-, rfl⟩, -⟩, hrequired⟩ := hresult
    refine ⟨htype', ?_⟩
    cases optional' <;> cases optional <;> simp at hrequired ⊢
  · rintro ⟨htype', rfl⟩
    exact ⟨type, htype', rfl⟩

/-- Named and inline a field is optional alike exactly if a mark of the declaration is set again
behind the name. -/
lemma isOptional_inline_iff (h : Declares ctx name declared calls)
    (hbyName : Spells Nested (name.toList ++ modifiers) (⟨name, none⟩ :: others)) :
    isOptional ctx.settings (trim (withoutDefaults (declared ++ modifiers)))
        = isOptional ctx.settings (trim (withoutDefaults (name.toList ++ modifiers))) ↔
      (marked ctx.settings (cleared calls) = true →
        (clearedRest others).any marksOptional = true) := by
  have hne := cleared_ne_nil h.spells
  have hne' : calls ≠ [] := by
    rintro rfl
    exact hne rfl
  have hinline := h.spells.append (spellsRest_of_name h.identifier hbyName)
  have hreference : marked ctx.settings (cleared (⟨name, none⟩ :: others))
      = (clearedRest others).any marksOptional := by
    show marked ctx.settings (⟨name, none⟩ :: clearedRest others) = _
    unfold marked
    rw [headLength_reference h.other]
    rfl
  rw [isOptional_eq_marked hinline, isOptional_eq_marked hbyName, cleared_append hne',
    marked_append hne h.head, hreference]
  cases marked ctx.settings (cleared calls) <;>
    cases (clearedRest others).any marksOptional <;> simp

/-- Named and inline a field has the same type exactly if the calls behind the name keep the
declared one. -/
lemma compile_field_iff (h : Declares ctx name declared calls)
    (hbyName : Spells Nested (name.toList ++ modifiers) (⟨name, none⟩ :: others))
    (hargs : ∀ call ∈ others, NestedArgs call) {k : ℕ}
    (hguard : (compile ctx (k + 1) visiting
      (trim (withoutDefaults (name.toList ++ modifiers)))).Unguarded)
    (hresult : (compile ctx (k + 1) visiting
      (trim (withoutDefaults (name.toList ++ modifiers)))).result = .ok tree) :
    ∃ type, (compile ctx k (name :: visiting) declared).result = .ok type ∧
      ((compile ctx (k + 1) visiting (trim (withoutDefaults (declared ++ modifiers)))).result
        = .ok tree ↔ Keeps ctx (cleared calls) (clearedRest others) type) := by
  have hinline := h.spells.append (spellsRest_of_name h.identifier hbyName)
  have hne' : calls ≠ [] := by
    rintro rfl
    exact cleared_ne_nil h.spells rfl
  have hmore : ∀ call ∈ clearedRest others, call.Legible Nested ∧ IsClear call := by
    intro call hcall
    exact ⟨hbyName.withoutDefaults.legible call (List.mem_cons_of_mem _ hcall),
      isClear_of_mem_clearedRest hargs call hcall⟩
  -- in the object the field has lost its defaults once, and is read without them once more
  have hothers :
      cleared (cleared (⟨name, none⟩ :: others)) = ⟨name, none⟩ :: clearedRest others :=
    cleared_cleared fun call hcall => (hbyName.legible call hcall).args
  have hinlined : cleared (cleared (calls ++ others)) = cleared calls ++ clearedRest others := by
    rw [cleared_cleared fun call hcall => (hinline.legible call hcall).args, cleared_append hne']
  exact compile_inline_iff h hmore (Nat.le_refl k) hbyName.withoutDefaults.trim hothers
    hinline.withoutDefaults.trim hinlined hguard hresult

/-- A field that names a declaration and the same field with the declaration inline give the same
object exactly if what stands behind the name keeps the declared type, and marks the type as
optional again if the declaration does. -/
theorem inline_eq_iff (hbuilder : IsIdentifier ctx.settings.builderNamespace.toList)
    (hname : IsIdentifier name.toList) (hentry : Entries.get? name ctx.table = some declared)
    (hdeclared : parse declared = some calls)
    (hmodifiers : parse (name.toList ++ modifiers) = some (⟨name, none⟩ :: others))
    (hnested : ∀ call ∈ calls ++ others, NestedArgs call)
    (hbare : cleared calls ≠ [⟨ctx.settings.builderNamespace, none⟩])
    (hguard : ∀ d ∈ diagnosticsOf (expression ctx visiting depth
        (withField ctx.settings.builderNamespace (name.toList ++ modifiers))).events,
      d.kind ≠ .referenceCycle ∧ d.kind ≠ .depthExceeded)
    (hvalue : (expression ctx visiting depth
      (withField ctx.settings.builderNamespace (name.toList ++ modifiers))).result = .ok tree) :
    (expression ctx visiting depth
        (withField ctx.settings.builderNamespace (declared ++ modifiers))).result = .ok tree ↔
      Entries.has ctx.settings.builderNamespace ctx.table = true ∨
        ∃ type, (expression ctx (name :: visiting) (depth + 2) declared).result = .ok type ∧
          Keeps ctx (cleared calls) (clearedRest others) type ∧
            (marked ctx.settings (cleared calls) = true →
              (clearedRest others).any marksOptional = true) := by
  have hspells := spells_of_parse hdeclared fun call hcall =>
    hnested call (List.mem_append_left _ hcall)
  have hbyName : Spells Nested (name.toList ++ modifiers) (⟨name, none⟩ :: others) := by
    refine spells_of_parse hmodifiers fun call hcall => ?_
    rcases List.mem_cons.1 hcall with rfl | hcall
    · exact fun args hargs => absurd hargs (by simp)
    · exact hnested call (List.mem_append_right _ hcall)
  have hinline := hspells.append (spellsRest_of_name hname hbyName)
  have hunguarded := Run.unguarded_iff.2 hguard
  unfold expression at hunguarded hvalue ⊢
  obtain ⟨l, hl⟩ := exists_levels hunguarded
  rw [hl] at hunguarded hvalue ⊢
  cases htable : Entries.has ctx.settings.builderNamespace ctx.table with
  | true =>
    rw [compile_withField_of_has hbuilder htable hbyName.nested] at hvalue
    rw [compile_withField_of_has hbuilder htable hinline.nested]
    exact ⟨fun _ => Or.inl rfl, fun _ => hvalue⟩
  | false =>
    have hother : name ≠ ctx.settings.builderNamespace := by
      rintro rfl
      unfold Entries.has at htable
      rw [hentry] at htable
      exact absurd htable (by simp)
    have hdeclares : Declares ctx name declared calls :=
      ⟨hentry, hspells, headLength_le (cleared_ne_nil hspells) hbare, hname, hother⟩
    have hargs : ∀ call ∈ others, NestedArgs call := fun call hcall =>
      hnested call (List.mem_append_right _ hcall)
    rw [compile_withField hbuilder htable hbyName] at hunguarded hvalue
    rw [compile_withField hbuilder htable hinline]
    have hunguarded' := (Run.avoids_bind_iff.1 hunguarded).1
    obtain ⟨k, rfl⟩ := exists_levels hunguarded'
    -- the objects are the same exactly if the fields have the same type and mark
    obtain ⟨fieldType, hfield, hiff⟩ := @withField_result_iff tree _
      (compile ctx (k + 1) visiting (trim (withoutDefaults (declared ++ modifiers)))) _
      (isOptional ctx.settings (trim (withoutDefaults (declared ++ modifiers)))) hvalue
    obtain ⟨type, htype, hkeeps⟩ := compile_field_iff hdeclares hbyName hargs hunguarded' hfield
    rw [hiff, hkeeps, isOptional_inline_iff hdeclares hbyName, levels_add_two hl]
    constructor
    · rintro ⟨hkept, hmarks⟩
      exact Or.inr ⟨type, htype, hkept, hmarks⟩
    · rintro (hfalse | ⟨type', htype', hkept, hmarks⟩)
      · exact absurd hfalse (by decide)
      · rw [htype, Except.ok.injEq] at htype'
        subst htype'
        exact ⟨hkept, hmarks⟩

/-- The name `S` is declared as a string. -/
def stringContext : Context := { table := [("S", "z.string()".toList)] }

/-- The bound behind the name of a string is lost, and inline it is kept. -/
theorem inline_ne_bound :
    (expression stringContext [] 0 (withField stringContext.settings.builderNamespace
        ("z.string()".toList ++ ".min(3)".toList))).result
      ≠ .ok (.object [("f", .string {})] ["f"]) := by
  have hnested : ∀ args : List Char, (∀ c ∈ args, c ∉ marks) → Nested args := by
    intro args hargs
    have hunmarked := Nested.nil.unmarked hargs
    rw [List.append_nil] at hunmarked
    exact hunmarked
  have hargs : ∀ call ∈ [(⟨"z", none⟩ : Call), ⟨"string", some []⟩] ++ [⟨"min", some ['3']⟩],
      NestedArgs call := by
    intro call hcall args hargs
    simp only [List.cons_append, List.nil_append, List.mem_cons, List.not_mem_nil,
      or_false] at hcall
    rcases hcall with rfl | rfl | rfl
    · exact absurd hargs (by simp)
    · rw [← Option.some.inj (show some [] = some args from hargs)]
      exact hnested [] (List.all_iff_forall_prop.1 (by decide))
    · rw [← Option.some.inj (show some ['3'] = some args from hargs)]
      exact hnested ['3'] (List.all_iff_forall_prop.1 (by decide))
  -- by the name the bound is lost, so inline the same object needs a string that stays without a
  -- bound when it is given one
  have hvalue : (expression stringContext [] 0 (withField stringContext.settings.builderNamespace
      ("S".toList ++ ".min(3)".toList))).result = .ok (.object [("f", .string {})] ["f"]) := by
    with_unfolding_all rfl
  have hentry : Entries.get? "S" stringContext.table = some "z.string()".toList := rfl
  have hiff := inline_eq_iff (by decide +kernel) (by decide +kernel) hentry
    (show parse "z.string()".toList = some [⟨"z", none⟩, ⟨"string", some []⟩] by decide +kernel)
    (show parse ("S".toList ++ ".min(3)".toList) = some [⟨"S", none⟩, ⟨"min", some ['3']⟩] by
      decide +kernel) hargs (by decide +kernel) (by decide +kernel) hvalue
  intro hinline
  rcases hiff.1 hinline with htable | ⟨type, htype, hkeeps, -⟩
  · exact absurd htable (by decide)
  · have hstring : (expression stringContext ["S"] 2 "z.string()".toList).result
        = .ok (.string {}) := by
      with_unfolding_all rfl
    have hsame : TypeTree.string {} = type := Except.ok.inj (hstring.symm.trans htype)
    subst hsame
    have hmodified : modify (.string {}) [⟨"min", some ['3']⟩]
        = .ok (.string { min := some (.int 3) }) := by
      with_unfolding_all rfl
    rcases hkeeps.modified with hrefers | hkept
    · exact absurd hrefers.1 (by decide +kernel)
    · have hclear : (clearedRest [⟨"min", some ['3']⟩]).takeWhile (fun call => !call.wraps)
          = [⟨"min", some ['3']⟩] := by
        decide +kernel
      rw [hclear, hmodified] at hkept
      exact absurd hkept (by simp)

end SlideContract.Compile
