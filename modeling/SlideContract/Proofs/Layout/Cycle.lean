import SlideContract.Proofs.Compile.Cycle
import SlideContract.Proofs.Declaration.Table
import SlideContract.Proofs.Layout.Course

/-!
# Cycles of references in layouts

The entry point of a layout is compiled with itself under way and with the text that the table has
for it, if it has one: its path of references begins with what it leads to. So the cycles that are
recorded are those that the entry point leads to, as long as nothing else cuts the compilation off.

* `Entered.onPath_entry`: the path of references begins at the entry point;
* `Entered.reaches_of_cut`, `Entered.exists_cut`: what is cut, and what the entry point reaches;
* `cycles_exact`: the cycles that are recorded.
-/

namespace SlideContract

/-- Only a name that was cut leaves a diagnostic of a cycle, and with that name. -/
lemma Event.eq_cycle {event : Event} {d : Diagnostic} (h : event.diagnostic? = some d)
    (hkind : d.kind = .referenceCycle) : ∃ name, d.name = some name ∧ event = .cycle name := by
  cases event with
  | cycle name =>
    rw [← Option.some.inj h]
    exact ⟨name, rfl, rfl⟩
  | _ => cases h <;> exact DiagnosticKind.noConfusion hkind

/-- A cycle is recorded with the name that was cut. -/
lemma cycle_of_mem_diagnostics {events : List Event} {d : Diagnostic}
    (hd : d ∈ diagnosticsOf events) (hkind : d.kind = .referenceCycle) :
    ∃ name, d.name = some name ∧ Event.cycle name ∈ events := by
  obtain ⟨event, hevent, hdiagnostic⟩ := List.mem_filterMap.1 hd
  obtain ⟨name, hname, rfl⟩ := Event.eq_cycle hdiagnostic hkind
  exact ⟨name, hname, hevent⟩

namespace Layout
open Compile Relation

variable {settings : Settings} {source : List Char} {table : Table} {entry : Declaration.Entry}
  {answered : Json × Bool}

/-- The path of references begins at the entry point. -/
lemma Entered.onPath_entry (h : Entered settings source table entry answered) :
    OnPath { table, settings } entry.text [entry.name] entry.text where
  leads name hname hhas other hmeets := by
    rw [List.mem_singleton.1 hname] at hhas ⊢
    have hget := Declaration.get?_entry h.collected h.chosen hhas
    have hdeclared : declared { table, settings } entry.name = entry.text := by
      unfold declared
      rw [hget, Option.getD_some]
    refine .single ⟨hhas, ?_⟩
    rw [hdeclared]
    exact hmeets
  reached other hmeets := ⟨other, hmeets, .refl⟩

/-- The entry point is compiled without an end before its time, if no fault and no excess of depth
is recorded. -/
lemma Entered.clean_of_no_depth (h : Entered settings source table entry answered)
    (hdeep : ∀ d ∈ (compile settings source).diagnostics, d.kind ≠ .depthExceeded) :
    (Compile.expression { table, settings } [entry.name] 0 entry.text).Clean Event.isTooDeep := by
  obtain ⟨tree, htree, -, -⟩ := h.exists_tree
  refine ⟨⟨tree, htree⟩, fun event hevent => ?_⟩
  have hstage := (inStage_expression _ _ _ _).stage_eq hevent
  exact (Event.forall_eq_false_iff fun _ => Event.isTooDeep_iff).2 hdeep event
    ((h.mem_events_iff hstage).2 hevent)

/-- A name that is cut lies on a cycle that the entry point reaches. -/
lemma Entered.reaches_of_cut (h : Entered settings source table entry answered)
    (hdeep : ∀ d ∈ (compile settings source).diagnostics, d.kind ≠ .depthExceeded) {name : String}
    (hcut : Event.cycle name ∈ (compile settings source).events) :
    Reaches { table, settings } entry.text name ∧
      TransGen (Refers { table, settings }) name name :=
  Compile.reaches_of_cut h.onPath_entry (h.clean_of_no_depth hdeep) ((h.mem_events_iff rfl).1 hcut)

/-- A cycle that the entry point reaches is cut somewhere. -/
lemma Entered.exists_cut (h : Entered settings source table entry answered)
    (hdeep : ∀ d ∈ (compile settings source).diagnostics, d.kind ≠ .depthExceeded) {name : String}
    (hreaches : Reaches { table, settings } entry.text name)
    (hcycle : TransGen (Refers { table, settings }) name name) :
    ∃ d ∈ (compile settings source).diagnostics, d.kind = .referenceCycle := by
  by_contra hnone
  have hclean := h.clean_of_no_depth hdeep
  refine not_reaches_of_unguarded ⟨hclean.ends, fun event hevent => ?_⟩ hreaches hcycle
  have hstage := (inStage_expression _ _ _ _).stage_eq hevent
  have hmem := (h.mem_events_iff hstage).2 hevent
  rw [Bool.eq_false_iff]
  intro hguard
  obtain ⟨d, hd, hkind | hkind⟩ := Event.isGuard_iff.1 hguard
  · exact hnone ⟨d, List.mem_filterMap.2 ⟨event, hmem, hd⟩, hkind⟩
  · exact hdeep d (List.mem_filterMap.2 ⟨event, hmem, hd⟩) hkind

/-- Where the ceiling is not reached and no fault ends the compilation of the entry point, every
cycle that is recorded names a declaration that refers to itself through one or more references, and
a cycle is recorded exactly if the entry point reaches a declaration that does. What a declaration
refers to is what is cut when it is compiled with all declarations under way. -/
theorem cycles_exact (settings : Settings) (source : List Char) (name : String)
    (hdeep : ∀ d ∈ (compile settings source).diagnostics, d.kind ≠ .depthExceeded)
    (hfault : ∀ d ∈ (compile settings source).diagnostics, d.kind ≠ .internalError)
    (hentry : (compile settings source).entryName = some name) :
    ∃ table text,
      (Declaration.table settings source).result = .ok table ∧
      (Declaration.entry? settings source table).result = .ok (some ⟨name, text⟩) ∧
      (∀ first other depth,
        let alone := Compile.expression { table, settings } (Entries.names table) depth
          (declared { table, settings } first)
        Entries.has first table = true → alone.Clean Event.isTooDeep →
          (Refers { table, settings } first other ↔ Event.cycle other ∈ alone.events)) ∧
      (∀ d ∈ (compile settings source).diagnostics, d.kind = .referenceCycle →
        ∃ other, d.name = some other ∧ TransGen (Refers { table, settings }) other other) ∧
      ((∃ d ∈ (compile settings source).diagnostics, d.kind = .referenceCycle) ↔
        ∃ other, Reaches { table, settings } text other ∧
          TransGen (Refers { table, settings }) other other) := by
  -- an entry point that answers is compiled to the end, and its events are what is diagnosed
  rcases compile_cases settings source with ⟨table, entry, answered, h⟩ | hgave
  · have hname : entry.name = name := by
      rw [h.compile_eq] at hentry
      exact Option.some.inj hentry
    subst hname
    refine ⟨table, entry.text, h.collected, h.chosen, ?_, ?_, ?_⟩
    · intro first other depth alone hhas halone
      refine ⟨fun hrefers => ?_, fun hcut => ⟨hhas, ?_⟩⟩
      · exact (meets_iff_cut (List.Subset.refl _) halone).1 hrefers.2
      · exact (meets_iff_cut (List.Subset.refl _) halone).2 hcut
    · intro d hd hkind
      obtain ⟨other, hother, hcut⟩ := cycle_of_mem_diagnostics hd hkind
      exact ⟨other, hother, (h.reaches_of_cut hdeep hcut).2⟩
    · constructor
      · rintro ⟨d, hd, hkind⟩
        obtain ⟨other, -, hcut⟩ := cycle_of_mem_diagnostics hd hkind
        exact ⟨other, h.reaches_of_cut hdeep hcut⟩
      · rintro ⟨other, hreaches, hcycle⟩
        exact h.exists_cut hdeep hreaches hcycle
  · -- without an answer from the entry point, there is none, or a fault is recorded
    rcases hgave.cause with ⟨hnone, -⟩ | ⟨fault, hended⟩
    · rw [hnone] at hentry
      exact absurd hentry (by simp)
    · exact absurd rfl (hfault _ (List.mem_filterMap.2 ⟨_, hended, rfl⟩))

/-- Two declarations that refer to each other, one of them through the items of a list. -/
def linkedPages : List Char :=
  "const PartSchema = z.array(PageSchema); const PageSchema = z.object(\x7bnext: PartSchema\x7d)"
    |>.toList

/-- The cycle of the two is recorded, and it is one: a declaration refers to itself through
others. -/
theorem cycles_exact_linked :
    (compile {} linkedPages).entryName = some "PageSchema" ∧
    (compile {} linkedPages).diagnostics.map (·.kind) = [.referenceCycle] ∧
    ∃ table text other, (Declaration.table {} linkedPages).result = .ok table ∧
      Reaches { table, settings := {} } text other ∧
      TransGen (Refers { table, settings := {} }) other other := by
  have hcompiled : (compile {} linkedPages).entryName = some "PageSchema" ∧
      (compile {} linkedPages).diagnostics.map (·.kind) = [.referenceCycle] := by decide +kernel
  obtain ⟨hentry, hkinds⟩ := hcompiled
  have hkind : ∀ d ∈ (compile {} linkedPages).diagnostics, d.kind = .referenceCycle := by
    intro d hd
    have hmem := List.mem_map_of_mem (f := (·.kind)) hd
    rw [hkinds] at hmem
    exact List.mem_singleton.1 hmem
  obtain ⟨table, text, htable, -, -, -, hcycles⟩ :=
    cycles_exact {} linkedPages "PageSchema" (fun d hd => by rw [hkind d hd]; decide)
      (fun d hd => by rw [hkind d hd]; decide) hentry
  have hmem : .referenceCycle ∈ (compile {} linkedPages).diagnostics.map (·.kind) := by
    rw [hkinds]
    exact List.mem_cons_self
  obtain ⟨other, hreaches, hcycle⟩ := hcycles.1 (List.mem_map.1 hmem)
  exact ⟨hentry, hkinds, table, text, other, htable, hreaches, hcycle⟩

end Layout
end SlideContract
