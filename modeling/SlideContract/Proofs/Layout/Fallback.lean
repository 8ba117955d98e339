import SlideContract.Proofs.Compile.Account
import SlideContract.Proofs.Layout.Course

/-!
# The fallback document and its diagnostics

A layout is answered with the fallback document only if something is recorded: a fault, that there
is no entry point or that it has no properties, or else the loss of the whole tree. The first three
are not recorded on any other way, since they come from the layout as a whole and not from the
stages that it goes through.

* `stage_of_kind`: which diagnostics come from the layout as a whole;
* `Entered.fallback_recorded`, `Entered.kind_of_own`: what is recorded of an entry point;
* `degradations_recorded`: nothing is lost without a diagnostic.
-/

namespace SlideContract

/-- A fault, a missing entry point and an entry point without properties befall the layout as a
whole. -/
lemma stage_of_kind {event : Event} {d : Diagnostic} (h : event.diagnostic? = some d)
    (hkind : d.kind ∈ [.noMainDeclaration, .emptySchema, .internalError]) :
    event.stage = .layout := by
  cases event with
  | noEntry _ | noProperties _ | ended _ => rfl
  | _ => cases h <;> exact absurd hkind (by simp)

namespace Layout
open Compile

variable {settings : Settings} {source : List Char} {table : Table} {entry : Declaration.Entry}
  {answered : Json × Bool} {name : String} {tree : TypeTree}

/-- An expression that is not understood at all leaves a diagnostic. -/
lemma exists_loss {ctx : Context} {visiting : List String} {depth : Int} {text : List Char}
    (h : (expression ctx visiting depth text).result = .ok .unknown) :
    ∃ d, d ∈ diagnosticsOf (expression ctx visiting depth text).events := by
  obtain ⟨marked, -, hfilled, hless⟩ := unknowns_le_diagnostics h
  -- filling makes no whole tree unknown, so that the fragment counts
  have hunknown : marked = .unknown := by
    cases marked with
    | unknown => rfl
    | array items b => cases items <;> exact absurd hfilled (by simp [TypeTree.filled])
    | _ => exact absurd hfilled (by simp [TypeTree.filled])
  rw [hunknown] at hless
  have hpos : 0 < ((diagnosticsOf (expression ctx visiting depth text).events).filter
      (·.kind.isLoss)).length := hless
  obtain ⟨d, hd⟩ := List.exists_mem_of_length_pos hpos
  exact ⟨d, (List.mem_filter.1 hd).1⟩

/-- An entry point that is answered with the fallback document leaves a diagnostic. -/
lemma Entered.fallback_recorded (h : Entered settings source table entry answered)
    (hfallback : answered.2 = true) :
    answered.1 = Document.fallback ∧ (compile settings source).diagnostics ≠ [] := by
  obtain ⟨tree, htree, hdocument, hevents⟩ := h.exists_tree
  -- the fallback stands in for an unknown tree, whose loss is recorded, or for one without
  -- properties
  rcases documentOf_cases hdocument with ⟨hanswered, hcause⟩ | ⟨document, -, hown, -⟩
  · refine ⟨by rw [hanswered], ?_⟩
    rcases hcause with rfl | hempty
    · obtain ⟨d, hd⟩ := exists_loss htree
      obtain ⟨event, hevent, hdiagnostic⟩ := List.mem_filterMap.1 hd
      have hmem := (h.mem_events_iff ((inStage_expression _ _ _ _).stage_eq hevent)).2 hevent
      exact List.ne_nil_of_mem (List.mem_filterMap.2 ⟨event, hmem, hdiagnostic⟩)
    · have hmem : Event.noProperties entry.name ∈ (compile settings source).events := by
        rw [h.compile_eq, hevents]
        refine List.mem_append_right _ (List.mem_append_right _ (List.mem_cons_of_mem _ ?_))
        exact List.mem_append_right _ hempty
      exact List.ne_nil_of_mem (List.mem_filterMap.2 ⟨_, hmem, rfl⟩)
  · rw [hown] at hfallback
    exact absurd hfallback Bool.false_ne_true

/-- An entry point that is answered with a document of its own leaves no diagnostic of the layout as
a whole. -/
lemma Entered.kind_of_own (h : Entered settings source table entry answered)
    (hown : answered.2 = false) {d : Diagnostic} (hd : d ∈ (compile settings source).diagnostics) :
    d.kind ∉ [.noMainDeclaration, .emptySchema, .internalError] := by
  intro hkind
  obtain ⟨event, hevent, hdiagnostic⟩ := List.mem_filterMap.1 hd
  have hstage := stage_of_kind hdiagnostic hkind
  rcases h.mem_events_cases hevent with hother | rfl | hexpression | ⟨tree, hdocument, hmem⟩
  · exact absurd (hother.symm.trans hstage) (by decide)
  · exact absurd hdiagnostic (by simp [Event.diagnostic?])
  · have hchain := (inStage_expression _ _ _ _).stage_eq hexpression
    exact absurd (hchain.symm.trans hstage) (by decide)
  · rcases documentOf_cases hdocument with ⟨hfallback, -⟩ | ⟨document, -, -, hnone⟩
    · rw [hfallback] at hown
      exact absurd hown.symm Bool.false_ne_true
    · rw [hnone] at hmem
      exact absurd hmem List.not_mem_nil

/-- No degradation is silent. A compiled expression has no more unknown fragments, beside the items
of arrays that are written without any, than its compilation records losses; and a layout says that
the fallback document stands in exactly where this document is its answer and something is recorded,
always when there is no entry point, when it has no properties, and after a fault. -/
theorem degradations_recorded :
    (∀ (ctx : Context) (visiting : List String) (depth : Int) (text : List Char) (tree : TypeTree),
      (expression ctx visiting depth text).result = .ok tree →
      ∃ marked, (openExpression ctx visiting depth text).result = .ok marked ∧
        marked.filled = tree ∧
        marked.unknowns ≤ ((diagnosticsOf (expression ctx visiting depth text).events).filter
          (·.kind.isLoss)).length) ∧
    ∀ (settings : Settings) (source : List Char),
      ((compile settings source).usedFallback = true →
        (compile settings source).document = Document.fallback ∧
          (compile settings source).diagnostics ≠ []) ∧
      ∀ d ∈ (compile settings source).diagnostics,
        d.kind ∈ [.noMainDeclaration, .emptySchema, .internalError] →
        (compile settings source).usedFallback = true := by
  refine ⟨fun _ _ _ _ _ h => unknowns_le_diagnostics h, fun settings source => ?_⟩
  -- either the entry point answers, with its own document or the fallback, or something gave out
  -- before
  rcases compile_cases settings source with ⟨table, entry, answered, h⟩ | hgave
  · refine ⟨fun hused => ?_, fun d hd hkind => ?_⟩
    · rw [h.compile_eq] at hused
      obtain ⟨hdocument, hrecorded⟩ := h.fallback_recorded hused
      refine ⟨?_, hrecorded⟩
      rw [h.compile_eq]
      exact hdocument
    · by_contra hnot
      have hown : answered.2 = false := by
        rw [h.compile_eq] at hnot
        exact Bool.eq_false_iff.2 hnot
      exact h.kind_of_own hown hd hkind
  · refine ⟨fun _ => ⟨hgave.document, ?_⟩, fun _ _ _ => hgave.usedFallback⟩
    rcases hgave.cause with ⟨-, opening, hevent⟩ | ⟨fault, hevent⟩
    · exact List.ne_nil_of_mem (List.mem_filterMap.2 ⟨_, hevent, rfl⟩)
    · exact List.ne_nil_of_mem (List.mem_filterMap.2 ⟨_, hevent, rfl⟩)

/-- A list that is written without items, and a map, which is not understood. -/
def themedNotes : List Char := "z.object(\x7bnotes: z.array(), theme: z.map()\x7d)".toList

/-- As an expression it has one unknown fragment beside the items of the list, and leaves one
diagnostic. As a layout it declares nothing, so that the fallback document stands in. -/
theorem degradations_recorded_themed :
    (∃ tree marked, (expression {} [] 0 themedNotes).result = .ok tree ∧
      (openExpression {} [] 0 themedNotes).result = .ok marked ∧ marked.filled = tree ∧
      marked.unknowns ≤ 1) ∧
    (compile {} themedNotes).usedFallback = true ∧
    (compile {} themedNotes).document = Document.fallback ∧
    (compile {} themedNotes).diagnostics ≠ [] := by
  have hlosses : ((diagnosticsOf (expression {} [] 0 themedNotes).events).filter
      (·.kind.isLoss)).length = 1 := by decide +kernel
  have hends : (expression {} [] 0 themedNotes).result.toOption.isSome = true := by decide +kernel
  have hnone : ⟨.noMainDeclaration, "No schema declaration found", none⟩
      ∈ (compile {} themedNotes).diagnostics := by decide +kernel
  obtain ⟨hexpressions, hlayouts⟩ := degradations_recorded
  obtain ⟨hfallback, hkinds⟩ := hlayouts {} themedNotes
  have hused := hkinds _ hnone (by decide)
  refine ⟨?_, hused, hfallback hused⟩
  cases htree : (expression {} [] 0 themedNotes).result with
  | error fault =>
    rw [htree] at hends
    exact absurd hends Bool.false_ne_true
  | ok tree =>
    obtain ⟨marked, hmarked, hfilled, hless⟩ := hexpressions _ _ _ _ tree htree
    rw [hlosses] at hless
    exact ⟨tree, marked, rfl, hmarked, hfilled, hless⟩

end Layout
end SlideContract
