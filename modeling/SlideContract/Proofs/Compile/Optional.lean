import SlideContract.Proofs.Compile.Inlined
import SlideContract.Proofs.Compile.Wrapped

/-!
# Optional arrays

A mark of an optional type counts wherever it stands behind the head of a chain. With a call of
`array` behind the chain of its items an array is therefore optional if the items are, and with the
chain as an argument it is not: only marks behind the array count there. The two spellings are
optional alike exactly if what stands behind the array marks it whenever the items are marked.

* `isOptional_suffixed`, `isOptional_wrapped`: the marks that count in the two spellings;
* `withField_suffixed_iff`: when a field gives the same object in both;
* `required_suffixed_ne_wrapped`: optional items make one of the two fields optional.
-/

namespace SlideContract.Compile
open Scan Text Chain

variable {ctx : Context} {settings : Settings} {text more : List Char} {calls others : List Call}

/-! ## Marks -/

/-- Calls that set defaults mark nothing, and the argument list of a call makes no difference. -/
lemma any_marksOptional_clearedRest (calls : List Call) :
    (clearedRest calls).any marksOptional = calls.any marksOptional := by
  have hcleared : ∀ call : Call, marksOptional call.cleared = marksOptional call := by
    intro call
    unfold marksOptional
    rw [Call.isCalled_cleared, Call.cleared_name]
  unfold clearedRest
  induction calls with
  | nil => rfl
  | cons call calls ih =>
    cases hsets : call.setsDefault with
    | false => simp [hsets, hcleared, ← ih]
    | true =>
      -- a call has one name, so what sets a default marks nothing
      have hname : marksOptional call = false := by
        unfold Call.setsDefault at hsets
        rw [Bool.and_eq_true, beq_iff_eq] at hsets
        simp [marksOptional, hsets.2]
      simp [hsets, hname, ← ih]

/-- An array written behind its items is optional if the items or what follows marks it. -/
theorem isOptional_suffixed (h : Spells Nested text calls)
    (hhead : Kind.headLength settings (cleared calls) ≤ (cleared calls).length)
    (hmore : SpellsRest Nested more others) :
    isOptional settings (suffixed text more)
      = (isOptional settings text || others.any marksOptional) := by
  have hne := cleared_ne_nil h
  have hcalls : calls ≠ [] := by
    rintro rfl
    exact hne rfl
  have hwhole : isOptional settings (suffixed text more)
      = marked settings (cleared calls ++ (⟨"array", some []⟩ : Call).cleared :: clearedRest others)
      := by
    rw [isOptional_of_spells (spells_suffixed h hmore)]
    exact congrArg (marked settings) (cleared_append hcalls)
  rw [hwhole, marked_append hne hhead, isOptional_of_spells h, List.any_cons,
    any_marksOptional_clearedRest]
  rfl

/-- An array written around its items is optional if what follows marks it. -/
theorem isOptional_wrapped (hbuilder : IsIdentifier settings.builderNamespace.toList)
    (h : Nested text) (hmore : SpellsRest Nested more others) :
    isOptional settings (wrapped settings.builderNamespace text more)
      = others.any marksOptional := by
  have hcleared : cleared (constructed settings "array" text others)
      = constructed settings "array" (withoutDefaults text) (clearedRest others) := rfl
  rw [isOptional_of_spells (spells_wrapped hbuilder h hmore), hcleared, headLength_constructed]
  exact any_marksOptional_clearedRest others

/-! ## Fields -/

/-- A field that is an array gives the same object in both spellings exactly if it is marked
wherever its items are. -/
theorem withField_suffixed_iff (hbuilder : IsIdentifier ctx.settings.builderNamespace.toList)
    (htable : Entries.has ctx.settings.builderNamespace ctx.table = false)
    (h : Spells Nested text calls) (hknown : Kind.ofText ctx.table ctx.settings text ≠ .unknown)
    (hmore : SpellsRest Nested more others) (hwraps : ∀ call ∈ others, call.wraps = false)
    {levels : ℕ} {visiting : List String} {tree : TypeTree}
    (hvalue : (compile ctx (levels + 1) visiting
      (withField ctx.settings.builderNamespace (suffixed text more))).result = .ok tree) :
    (compile ctx (levels + 1) visiting (withField ctx.settings.builderNamespace
        (wrapped ctx.settings.builderNamespace text more))).result = .ok tree ↔
      (isOptional ctx.settings text = true → others.any marksOptional = true) := by
  have hsuffixed := spells_suffixed h hmore
  have hwrapped := spells_wrapped hbuilder h.nested hmore
  have hhead : Kind.headLength ctx.settings (cleared calls) ≤ (cleared calls).length := by
    unfold Kind.ofText at hknown
    rw [h.withoutDefaults.parse_eq] at hknown
    exact headLength_of_known htable hknown
  rw [compile_withField hbuilder htable hsuffixed] at hvalue
  rw [compile_withField hbuilder htable hwrapped]
  obtain ⟨type, htype, hiff⟩ := withField_result_iff hvalue
  rw [hiff, result_compile_withoutDefaults hwrapped.nested,
    ← result_suffixed_eq_wrapped hbuilder htable h hknown hmore hwraps,
    ← result_compile_withoutDefaults hsuffixed.nested, htype,
    isOptional_withoutDefaults hsuffixed.nested, isOptional_withoutDefaults hwrapped.nested,
    isOptional_suffixed h hhead hmore, isOptional_wrapped hbuilder h.nested hmore]
  -- both spellings have one type, so the objects differ at most in whether the field is required
  cases isOptional ctx.settings text <;> cases others.any marksOptional <;> simp

/-- Behind items that are optional an array is, and around them it is not. -/
theorem required_suffixed_ne_wrapped :
    (compile {} 3 [] (withField "z" (suffixed "z.string().optional()".toList []))).result
      = .ok (.object [("f", .array (some (.string {})) {})] []) ∧
    (compile {} 3 [] (withField "z" (wrapped "z" "z.string().optional()".toList []))).result
      = .ok (.object [("f", .array (some (.string {})) {})] ["f"]) := by
  refine ⟨?_, ?_⟩
  · with_unfolding_all rfl
  · with_unfolding_all rfl

end SlideContract.Compile
