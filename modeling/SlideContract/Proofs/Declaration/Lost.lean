import SlideContract.Proofs.Compile.Descent
import SlideContract.Proofs.Compile.Inlined
import SlideContract.Proofs.Declaration.Chain

/-!
# What a declaration loses

The span of a declaration ends at the first call behind its constructor that is not of a trailing
method, and the calls from there on are lost, although compilation reads modifiers wherever they
stand. So a declared chain has the type that it has by itself only if the lost calls modify nothing.

* `result_append`: what the lost calls would have done to the type;
* `declared_chain`: the type of a declared chain, and when nothing of it is lost;
* `declared_ne_trimmed`: a declared chain that has lost its bound.
-/

namespace SlideContract

namespace Compile
open Scan Text Chain

variable {ctx : Context} {visiting : List String} {depth : Int} {text more : List Char}
  {calls others : List Call}

/-- Calls behind a chain of a constructor modify the type that it has without them. -/
theorem result_append (hspells : Spells Nested text calls) (hmore : SpellsRest Nested more others)
    (hbare : cleared calls ≠ [⟨ctx.settings.builderNamespace, none⟩])
    (hreference : Kind.ofChain ctx.table ctx.settings (cleared calls) ≠ .reference)
    (hwraps : ∀ call ∈ others, call.wraps = false) (hdepth : depth ≤ ctx.settings.maxDepth) :
    (expression ctx visiting depth (text ++ more)).result
      = (expression ctx visiting depth text).result.bind fun type =>
          (modify type (clearedRest others)).mapError .digits := by
  have hne := cleared_ne_nil hspells
  have hne' : calls ≠ [] := by
    rintro rfl
    exact hne rfl
  have hwraps' : ∀ call ∈ clearedRest others, call.wraps = false := by
    intro call hcall
    obtain ⟨call', hmem, rfl⟩ := List.mem_map.1 hcall
    have hcall' := hwraps call' (List.mem_filter.1 hmem).1
    unfold Call.wraps at hcall' ⊢
    rw [Call.isCalled_cleared, Call.cleared_name, hcall']
  -- below the ceiling at least one level is left to read the calls on
  obtain ⟨k, hk⟩ : ∃ k, levels ctx.settings depth = k + 1 := by
    refine ⟨levels ctx.settings depth - 1, ?_⟩
    unfold levels
    omega
  unfold expression
  rw [hk, compile_of_spells (hspells.append hmore), compile_of_spells hspells, cleared_append hne',
    callsType_append hne (headLength_le hne hbare) hwraps' fun hrefers => hreference hrefers.1]
  rw [Run.result_bind, result_callsType _ (trim (withoutDefaults text))]
  rfl

end Compile

namespace Declaration
open Scan Text Chain Compile

variable {stem text ending : List Char} {constructor : Call} {modifiers : List Call}

/-- What compilation makes of a declared chain: its type without the lost calls, which it has by
itself only if those do not modify it. If all its calls are of trailing methods, none is lost. -/
theorem declared_chain {maxDepth : ℤ} (h : Declarable Nested text constructor modifiers)
    (hconstructor : constructor.setsDefault = false)
    (hstem : ∀ c ∈ stem, isNameChar c = true)
    (hending : ∀ c ∈ stripComments ending, c = ';' ∨ isBlank c = true) :
    ∃ kept,
      (table { maxDepth := maxDepth } (opening stem ++ (text ++ ending))).result
        = .ok [(String.ofList (stem ++ "Schema".toList), kept)] ∧
      ((∀ call ∈ modifiers, call.trails = true) → kept = text) ∧
      ∀ ctx visiting depth,
        ctx.settings.builderNamespace = "z" → Entries.has "z" ctx.table = false →
        depth ≤ ctx.settings.maxDepth →
        (∀ call ∈ modifiers.dropWhile Call.trails, call.wraps = false) →
        (expression ctx visiting depth text).result
          = (expression ctx visiting depth kept).result.bind fun type =>
              (modify type (clearedRest (modifiers.dropWhile Call.trails))).mapError .digits := by
  obtain ⟨kept, lost, rfl, hkept, hlost, htable⟩ :=
    @table_chain Nested stem text ending constructor modifiers maxDepth h
      (fun _ hargs => hargs.balanced.commented) hstem hending
  rw [stripComments_of_plain hkept.nested.balanced.plain] at htable
  refine ⟨kept, by rw [htable], fun htrails => ?_, ?_⟩
  · rw [List.dropWhile_eq_nil_iff.2 htrails] at hlost
    rw [hlost.eq_nil h.stops, List.append_nil]
  · intro ctx visiting depth hnamespace hdeclared hdepth hwraps
    -- what is kept begins with the namespace and the constructor, so that it is no reference
    set calls := cleared (⟨"z", none⟩ :: constructor :: modifiers.takeWhile Call.trails) with hcalls
    have hhead : calls = ⟨"z", none⟩ :: constructor.cleared ::
        clearedRest (modifiers.takeWhile Call.trails) := by
      rw [hcalls, cleared]
      unfold clearedRest
      rw [List.filter_cons, hconstructor]
      rfl
    refine result_append hkept hlost ?_ (fun hreference => ?_) hwraps hdepth
    · rw [← hcalls, hhead]
      simp
    · have hentry := has_of_reference hreference
      rw [← hcalls, hhead, List.headD_cons, hdeclared] at hentry
      exact absurd hentry (by decide)

/-- A chain that calls `trim` before `min`. -/
def trimmed : List Char := "z.string().trim().min(1)".toList

/-- The call of `min` is lost with that of `trim` before it, so that a constant that declares the
chain has no bound, and the chain by itself has one. -/
theorem declared_ne_trimmed :
    (table {} (opening ['X'] ++ (trimmed ++ [';']))).result.toOption
      = some [("XSchema", "z.string()".toList)] ∧
    (expression {} [] 0 "z.string()".toList).result = .ok (.string {}) ∧
    (expression {} [] 0 trimmed).result = .ok (.string { min := some (.int 1) }) := by
  refine ⟨by decide +kernel, ?_, ?_⟩
  · with_unfolding_all rfl
  · with_unfolding_all rfl

end Declaration
end SlideContract
