import SlideContract.Layout.Compile
import SlideContract.Proofs.Compile.Guard

/-!
# Compilation apart from its context

What an expression compiles to depends on where it stands only through the two guards, the ceiling
and the declarations under way. As long as neither strikes, the place does not matter; and a layout
that does not reach the ceiling is the same below a higher one, even if declarations in it refer
back to themselves.

* `expression_of_avoids`: the run of an expression in which nothing strikes, in a wider context;
* `answer_withCeiling`: the answer to a layout under a higher ceiling;
* `compile_in_any_context`: both, and two uses of one expression.
-/

namespace SlideContract

namespace Compile

variable {ctx : Context} {strikes : Event → Bool} {visiting visiting' : List String}
  {depth depth' ceiling : Int} {text : List Char}

/-- With more room below the ceiling, no fewer levels remain. -/
lemma levels_le (h : ctx.settings.maxDepth - depth ≤ ceiling - depth') :
    levels ctx.settings depth ≤ levels (ctx.withCeiling ceiling).settings depth' := by
  have hceiling : (ctx.withCeiling ceiling).settings.maxDepth = ceiling := rfl
  unfold levels
  rw [hceiling]
  omega

/-- The run of an expression in which nothing strikes is the same with more room below the ceiling
and fewer declarations under way. -/
lemma expression_of_avoids (hdeep : ∀ ceiling text, strikes (.tooDeep ceiling text) = true)
    (hsub : Narrows strikes visiting' visiting)
    (hroom : ctx.settings.maxDepth - depth ≤ ceiling - depth')
    (h : (expression ctx visiting depth text).Avoids strikes) :
    expression (ctx.withCeiling ceiling) visiting' depth' text
      = expression ctx visiting depth text :=
  compile_of_avoids hdeep ceiling (levels_le hroom) _ _ text hsub h

/-- Two uses of one expression in which no guard strikes are compiled alike. -/
lemma expression_of_unguarded (h : (expression ctx visiting depth text).Unguarded)
    (h' : (expression (ctx.withCeiling ceiling) visiting' depth' text).Unguarded) :
    expression (ctx.withCeiling ceiling) visiting' depth' text
      = expression ctx visiting depth text := by
  -- both are what is compiled with no declaration under way and with the more room of the two
  have hnone : ∀ names, Narrows Event.isGuard [] names := fun names =>
    .of_subset (fun _ => rfl) (List.nil_subset names)
  have hroom := Int.le_max_left (ctx.settings.maxDepth - depth) (ceiling - depth')
  have hroom' := Int.le_max_right (ctx.settings.maxDepth - depth) (ceiling - depth')
  rw [← Int.sub_zero (max _ _)] at hroom hroom'
  rw [← expression_of_avoids (fun _ _ => rfl) (hnone visiting) hroom h]
  exact (expression_of_avoids (fun _ _ => rfl) (hnone visiting') hroom' h').symm

end Compile

namespace Layout

variable {settings : Settings} {source : List Char} {table : Table} {ceiling : Int}

/-- Declarations are found under any ceiling. -/
lemma table_withCeiling :
    Declaration.table (settings.withCeiling ceiling) source
      = Declaration.table settings source := rfl

lemma entry?_withCeiling :
    Declaration.entry? (settings.withCeiling ceiling) source table
      = Declaration.entry? settings source table := rfl

lemma entryDocument_withCeiling (hle : settings.maxDepth ≤ ceiling) {entry : Declaration.Entry}
    (h : (entryDocument settings table entry).Avoids Event.isTooDeep) :
    entryDocument (settings.withCeiling ceiling) table entry
      = entryDocument settings table entry := by
  unfold entryDocument at h ⊢
  refine Run.bind_agrees h (fun _ => rfl) fun _ h => ?_
  refine Run.bind_agrees h (fun h => ?_) fun _ _ => rfl
  exact Compile.expression_of_avoids (fun _ _ => rfl) (.refl _) (Int.sub_le_sub_right hle 0) h

/-- What happens while the entry point is compiled is part of what happens to the layout. -/
lemma events_entryDocument {entry : Declaration.Entry}
    (h : (Declaration.entry? settings source table).result = .ok (some entry)) :
    (entryDocument settings table entry).events ⊆ (answer settings source table).events := by
  intro event hevent
  unfold answer
  simp only [h]
  cases (entryDocument settings table entry).result with
  | error fault => simp [hevent]
  | ok answered => simp [hevent]

lemma answer_withCeiling (hle : settings.maxDepth ≤ ceiling)
    (h : ∀ event ∈ (answer settings source table).events, event.isTooDeep = false) :
    answer (settings.withCeiling ceiling) source table = answer settings source table := by
  cases hentry : (Declaration.entry? settings source table).result with
  | error fault =>
    unfold answer
    simp only [entry?_withCeiling, hentry]
  | ok found =>
    cases found with
    | none =>
      unfold answer
      simp only [entry?_withCeiling, hentry]
    | some entry =>
      have havoids : (entryDocument settings table entry).Avoids Event.isTooDeep :=
        fun event hevent => h event (events_entryDocument hentry hevent)
      unfold answer
      simp only [entry?_withCeiling, hentry, entryDocument_withCeiling hle havoids]

/-- A layout that does not reach the ceiling has the same answer under a higher one. -/
lemma compile_withCeiling (hle : settings.maxDepth ≤ ceiling)
    (h : ∀ d ∈ (compile settings source).diagnostics, d.kind ≠ .depthExceeded) :
    compile (settings.withCeiling ceiling) source = compile settings source := by
  have hevents := (Event.forall_eq_false_iff fun _ => Event.isTooDeep_iff).2 h
  unfold compile at hevents ⊢
  simp only [table_withCeiling] at hevents ⊢
  cases hcollected : (Declaration.table settings source).result with
  | error fault => rfl
  | ok table =>
    rw [hcollected] at hevents
    -- what happens on the way to the answer is part of what happens to the layout
    have hanswer : ∀ event ∈ (answer settings source table).events, event.isTooDeep = false :=
      fun event hevent => hevents event (List.mem_append_right _ hevent)
    simp only [answer_withCeiling hle hanswer]

/-- An expression that no guard cuts off has the same run wherever else it stands, with no more
declarations under way and no less room below the ceiling; all its uses without a guard's striking
are compiled alike; and a layout that does not reach the ceiling has the same answer under every
higher one. -/
theorem compile_in_any_context (ctx : Compile.Context) (text : List Char) :
    (∀ visiting visiting' depth depth' ceiling, visiting' ⊆ visiting →
      ctx.settings.maxDepth - depth ≤ ceiling - depth' →
      (∀ d ∈ diagnosticsOf (Compile.expression ctx visiting depth text).events,
        d.kind ≠ .referenceCycle ∧ d.kind ≠ .depthExceeded) →
      Compile.expression (ctx.withCeiling ceiling) visiting' depth' text
        = Compile.expression ctx visiting depth text) ∧
    (∀ visiting visiting' depth depth' ceiling,
      (∀ d ∈ diagnosticsOf (Compile.expression ctx visiting depth text).events,
        d.kind ≠ .referenceCycle ∧ d.kind ≠ .depthExceeded) →
      (∀ d ∈ diagnosticsOf
          (Compile.expression (ctx.withCeiling ceiling) visiting' depth' text).events,
        d.kind ≠ .referenceCycle ∧ d.kind ≠ .depthExceeded) →
      Compile.expression (ctx.withCeiling ceiling) visiting' depth' text
        = Compile.expression ctx visiting depth text) ∧
    (∀ settings source ceiling, settings.maxDepth ≤ ceiling →
      (∀ d ∈ (compile settings source).diagnostics, d.kind ≠ .depthExceeded) →
      compile (settings.withCeiling ceiling) source = compile settings source) := by
  refine ⟨fun visiting visiting' depth depth' ceiling hsub hroom h => ?_,
    fun visiting visiting' depth depth' ceiling h h' => ?_,
    fun settings source ceiling hle h => compile_withCeiling hle h⟩
  · exact Compile.expression_of_avoids (fun _ _ => rfl) (.of_subset (fun _ => rfl) hsub) hroom
      (Run.unguarded_iff.2 h)
  · exact Compile.expression_of_unguarded (Run.unguarded_iff.2 h) (Run.unguarded_iff.2 h')

/-- One declaration, for the use of others. -/
def titled : Compile.Context := { table := [("TitleSchema", "z.string().min(2)".toList)] }

/-- A shape that uses `TitleSchema` at two depths is compiled alike right above the ceiling, while
other declarations are under way, and at the very beginning; and a layout that refers back to itself
is the same under a higher ceiling. -/
theorem compile_in_any_context_titled :
    Compile.expression (titled.withCeiling 32) [] 0
        "z.object(\x7btitle: TitleSchema, tags: z.array(TitleSchema)\x7d)".toList
      = Compile.expression titled ["SlideSchema"] 29
        "z.object(\x7btitle: TitleSchema, tags: z.array(TitleSchema)\x7d)".toList ∧
    Compile.expression (titled.withCeiling 7) ["OtherSchema"] 4
        "z.object(\x7btitle: TitleSchema, tags: z.array(TitleSchema)\x7d)".toList
      = Compile.expression titled ["SlideSchema"] 29
        "z.object(\x7btitle: TitleSchema, tags: z.array(TitleSchema)\x7d)".toList ∧
    compile (({} : Settings).withCeiling 40)
        "const SlideSchema = z.object(\x7bnext: SlideSchema\x7d);".toList
      = compile {} "const SlideSchema = z.object(\x7bnext: SlideSchema\x7d);".toList := by
  obtain ⟨hwider, hother, hraised⟩ := compile_in_any_context titled
    "z.object(\x7btitle: TitleSchema, tags: z.array(TitleSchema)\x7d)".toList
  refine ⟨hwider ["SlideSchema"] [] 29 0 32 (by decide) (by decide) (by decide +kernel),
    hother ["SlideSchema"] ["OtherSchema"] 29 4 7 (by decide +kernel) (by decide +kernel), ?_⟩
  exact hraised {} _ 40 (by decide) (by decide +kernel)

end Layout
end SlideContract
