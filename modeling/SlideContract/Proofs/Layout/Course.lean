import SlideContract.Layout.Compile
import SlideContract.Proofs.Compile.Parts

/-!
# The course of a compilation

A layout is answered by what its entry point compiles to, or by the fallback document because there
is no entry point or because a fault came in between. Each stage on the way leaves events of its
own, so that an event tells which stage it comes from.

* `compile_cases`: the two ways of answering a layout;
* `Entered.compile_eq`: the answer of an entry point;
* `documentOf_cases`: the answer to a tree;
* `inStage_table`, `inStage_entry`, `inStage_expression`: the events of the stages;
* `Entered.mem_events_iff`: what happens to a chain happens while the entry point is compiled.
-/

namespace SlideContract

/-- The stage that leaves an event. -/
def Event.stage : Event → Stage
  | .malformed _ _ | .redeclared _ | .collected _ | .entryInSource _ => .declaration
  | .tooDeep _ _ | .unrecognized _ | .cycle _ | .inlined _ | .itemless | .unsupportedShape _
  | .skipped _ | .openEnum _ | .unsupportedLiteral _ => .chain
  | .unknownRoot => .document
  | .noEntry _ | .entering _ | .noProperties _ | .ended _ | .fallbackLayout _ => .layout

/-- All events of a run come from one stage. -/
abbrev Run.InStage {α : Type} (stage : Stage) (run : Run α) : Prop :=
  run.Avoids fun event => event.stage ≠ stage

lemma Run.InStage.stage_eq {α : Type} {stage : Stage} {run : Run α} (h : run.InStage stage)
    {event : Event} (hevent : event ∈ run.events) : event.stage = stage := by
  have hfalse := h event hevent
  simpa using hfalse

namespace Compile

/-- Compiling an expression leaves events of chains only. -/
lemma inStage_compile (ctx : Context) (levels : ℕ) (visiting : List String) (text : List Char) :
    (compile ctx levels visiting text).InStage .chain := by
  have hown : ∀ event : Event, event.isRemark = true → decide (event.stage ≠ .chain) = false := by
    intro event hremark
    cases event <;> first | rfl | exact absurd hremark Bool.false_ne_true
  induction levels generalizing visiting text with
  | zero => exact Run.avoids_bind_iff.2 ⟨Run.avoids_emit.2 rfl, fun _ _ => Run.avoids_pure _⟩
  | succ levels ih =>
    rw [compile_eq]
    refine callsType_avoids hown _ (fun part _ => ih visiting part) fun name _ => ?_
    exact referenceType_avoids hown (fun _ => rfl) fun _ => ih _ _

lemma inStage_expression (ctx : Context) (visiting : List String) (depth : Int)
    (text : List Char) : (expression ctx visiting depth text).InStage .chain :=
  inStage_compile ctx _ visiting text

end Compile

namespace Declaration

variable {settings : Settings} {source : List Char}

lemma inStage_collect (table : Table) (head : Head) :
    (collect settings source table head).InStage .declaration := by
  unfold collect
  simp only
  split
  · exact Run.avoids_bind_iff.2 ⟨Run.avoids_emit.2 rfl, fun _ _ => Run.avoids_pure _⟩
  · split
    · exact Run.avoids_bind_iff.2 ⟨Run.avoids_emit.2 rfl, fun _ _ => Run.avoids_pure _⟩
    · exact Run.avoids_pure _

/-- Collecting declarations leaves events of declarations only. -/
lemma inStage_table (settings : Settings) (source : List Char) :
    (table settings source).InStage .declaration := by
  unfold table
  simp only
  refine Run.avoids_bind_iff.2 ⟨?_, fun _ _ => ?_⟩
  · exact (Run.stepwise_avoids _).foldlM (fun table head _ => inStage_collect table head) _
  · exact Run.avoids_bind_iff.2 ⟨Run.avoids_emit.2 rfl, fun _ _ => Run.avoids_pure _⟩

/-- Choosing the entry point leaves events of declarations only. -/
lemma inStage_entry (settings : Settings) (source : List Char) (table : Table) :
    ( entry? settings source table).InStage .declaration := by
  unfold entry?
  split
  · exact Run.avoids_pure _
  · split
    · exact Run.avoids_bind_iff.2 ⟨Run.avoids_emit.2 rfl, fun _ _ => Run.avoids_pure _⟩
    · exact Run.avoids_pure _

end Declaration

namespace Layout

variable {settings : Settings} {source : List Char}

/-- A layout has an entry point that is compiled to a document. -/
structure Entered (settings : Settings) (source : List Char) (table : Table)
    (entry : Declaration.Entry) (answered : Json × Bool) : Prop where
  collected : (Declaration.table settings source).result = .ok table
  chosen : (Declaration.entry? settings source table).result = .ok (some entry)
  compiled : (entryDocument settings table entry).result = .ok answered

variable {table : Table} {entry : Declaration.Entry} {answered : Json × Bool}

/-- The answer to a layout whose entry point is compiled to a document. -/
lemma Entered.compile_eq (h : Entered settings source table entry answered) :
    compile settings source = {
      document := answered.1
      entryName := some entry.name
      declarations := Entries.names table
      usedFallback := answered.2
      events := (Declaration.table settings source).events ++
        ((Declaration.entry? settings source table).events ++
          (entryDocument settings table entry).events) } := by
  unfold compile answer
  simp only [h.collected, h.chosen, h.compiled]

/-- The compilation of an entry point goes through that of its expression. -/
lemma Entered.exists_tree (h : Entered settings source table entry answered) :
    ∃ tree, (Compile.expression { table, settings } [entry.name] 0 entry.text).result = .ok tree ∧
      (documentOf entry.name tree).result = .ok answered ∧
      (entryDocument settings table entry).events = .entering entry.name ::
        ((Compile.expression { table, settings } [entry.name] 0 entry.text).events ++
          (documentOf entry.name tree).events) := by
  have hcompiled := h.compiled
  unfold entryDocument at hcompiled ⊢
  obtain ⟨_, -, hrest⟩ := Run.result_bind_eq_ok.1 hcompiled
  obtain ⟨tree, htree, hdocument⟩ := Run.result_bind_eq_ok.1 hrest
  refine ⟨tree, htree, hdocument, ?_⟩
  rw [Run.bind_of_ok (Run.result_emit _), Run.bind_of_ok htree]
  rfl

/-- A tree is answered with the fallback document if it is unknown or has no properties, and with a
document of its own and without events if not. -/
lemma documentOf_cases {name : String} {tree : TypeTree} {answered : Json × Bool}
    (h : (documentOf name tree).result = .ok answered) :
    answered = (Document.fallback, true) ∧
        (tree = .unknown ∨ Event.noProperties name ∈ (documentOf name tree).events) ∨
      ∃ document, Document.ofRoot tree = .ok document ∧ answered = (document, false) ∧
        (documentOf name tree).events = [] := by
  unfold documentOf at h ⊢
  split at h
  · exact Or.inl ⟨(Except.ok.inj h).symm, Or.inl rfl⟩
  · exact Or.inl ⟨(Except.ok.inj h).symm, Or.inr List.mem_cons_self⟩
  · cases hdocument : Document.ofRoot tree with
    | error missing =>
      rw [hdocument] at h
      exact absurd h (by rintro ⟨⟩)
    | ok document =>
      rw [hdocument] at h
      exact Or.inr ⟨document, rfl, (Except.ok.inj h).symm, rfl⟩

/-- Making the document of a tree leaves no event of chains. -/
lemma documentOf_avoids_chain (name : String) (tree : TypeTree) :
    (documentOf name tree).Avoids fun event => event.stage = .chain := by
  unfold documentOf
  split
  · exact Run.avoids_bind_iff.2 ⟨Run.avoids_emit.2 rfl, fun _ _ => Run.avoids_pure _⟩
  · exact Run.avoids_bind_iff.2 ⟨Run.avoids_emit.2 rfl, fun _ _ => Run.avoids_pure _⟩
  · exact fun event hevent => absurd hevent List.not_mem_nil

/-- Where the events of a layout come from. -/
lemma Entered.mem_events_cases (h : Entered settings source table entry answered) {event : Event}
    (hmem : event ∈ (compile settings source).events) :
    event.stage = .declaration ∨ event = .entering entry.name ∨
      event ∈ (Compile.expression { table, settings } [entry.name] 0 entry.text).events ∨
      ∃ tree, (documentOf entry.name tree).result = .ok answered ∧
        event ∈ (documentOf entry.name tree).events := by
  obtain ⟨tree, -, hdocument, hevents⟩ := h.exists_tree
  rw [h.compile_eq, hevents] at hmem
  rcases List.mem_append.1 hmem with hcollect | hmem
  · exact Or.inl ((Declaration.inStage_table settings source).stage_eq hcollect)
  rcases List.mem_append.1 hmem with hentry | hmem
  · exact Or.inl ((Declaration.inStage_entry settings source table).stage_eq hentry)
  rcases List.mem_cons.1 hmem with hentering | hmem
  · exact Or.inr (Or.inl hentering)
  rcases List.mem_append.1 hmem with hexpression | hmem
  · exact Or.inr (Or.inr (Or.inl hexpression))
  · exact Or.inr (Or.inr (Or.inr ⟨tree, hdocument, hmem⟩))

/-- What happens to the chains of a layout happens while its entry point is compiled. -/
lemma Entered.mem_events_iff (h : Entered settings source table entry answered) {event : Event}
    (hstage : event.stage = .chain) :
    event ∈ (compile settings source).events ↔
      event ∈ (Compile.expression { table, settings } [entry.name] 0 entry.text).events := by
  constructor
  · intro hmem
    rcases h.mem_events_cases hmem with hother | rfl | hexpression | ⟨tree, -, hdocument⟩
    · exact absurd (hother.symm.trans hstage) (by decide)
    · exact absurd hstage Stage.noConfusion
    · exact hexpression
    · exact absurd hstage (of_decide_eq_false (documentOf_avoids_chain _ _ _ hdocument))
  · intro hmem
    obtain ⟨tree, -, -, hevents⟩ := h.exists_tree
    rw [h.compile_eq, hevents]
    refine List.mem_append_right _ (List.mem_append_right _ (List.mem_cons_of_mem _ ?_))
    exact List.mem_append_left _ hmem

/-- A layout is answered with the fallback document before its entry point is compiled to any, and
an event says why. -/
structure Compiled.GaveUp (c : Compiled) : Prop where
  document : c.document = Document.fallback
  usedFallback : c.usedFallback = true
  cause : (c.entryName = none ∧ ∃ opening, Event.noEntry opening ∈ c.events) ∨
    ∃ fault, Event.ended fault ∈ c.events

/-- A layout is answered by its entry point, or with the fallback document. -/
theorem compile_cases (settings : Settings) (source : List Char) :
    (∃ table entry answered, Entered settings source table entry answered) ∨
      (compile settings source).GaveUp := by
  unfold compile
  -- what may fail is taken in the order in which the layout takes it
  cases hcollected : (Declaration.table settings source).result with
  | error fault =>
    simp only [hcollected]
    refine Or.inr ⟨rfl, rfl, Or.inr ⟨fault, ?_⟩⟩
    exact List.mem_append_right _ List.mem_cons_self
  | ok table =>
    unfold answer
    simp only [hcollected]
    cases hchosen : (Declaration.entry? settings source table).result with
    | error fault =>
      refine Or.inr ⟨rfl, rfl, Or.inr ⟨fault, ?_⟩⟩
      exact List.mem_append_right _ (List.mem_append_right _ List.mem_cons_self)
    | ok found =>
      cases found with
      | none =>
        refine Or.inr ⟨rfl, rfl, Or.inl ⟨rfl, source.take 80, ?_⟩⟩
        exact List.mem_append_right _ (List.mem_append_right _ List.mem_cons_self)
      | some entry =>
        dsimp only
        cases hcompiled : (entryDocument settings table entry).result with
        | error fault =>
          refine Or.inr ⟨rfl, rfl, Or.inr ⟨fault, ?_⟩⟩
          exact List.mem_append_right _ (List.mem_append_right _ List.mem_cons_self)
        | ok answered => exact Or.inl ⟨table, entry, answered, hcollected, hchosen, hcompiled⟩

end Layout
end SlideContract
