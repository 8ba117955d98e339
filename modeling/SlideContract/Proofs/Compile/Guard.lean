import SlideContract.Compile.Expression
import SlideContract.Proofs.Run

/-!
# Runs that no guard cuts off

Two guards make compilation end: the ceiling on the depth, and the set of declarations that are
being compiled. Where neither of them strikes, they leave no trace: the run is the same with more
levels below the ceiling and with fewer declarations under way. Where only the ceiling does not
strike, it leaves none either, as long as the same declarations are under way.

* `Run.avoids_bind_iff`: a run of two steps leaves no event of a kind if neither step does;
* `compile_of_avoids`: more levels and fewer declarations under way change nothing;
* `compile_of_unguarded`: the same where no guard strikes at all.
-/

namespace SlideContract

namespace Event

/-- The event says that the ceiling struck. -/
def isTooDeep : Event → Bool
  | .tooDeep _ _ => true
  | _ => false

/-- The event says that a guard struck. -/
def isGuard : Event → Bool
  | .tooDeep _ _ => true
  | .cycle _ => true
  | _ => false

/-- A ceiling that strikes is recorded as an excess of depth, and nothing else is. -/
lemma isTooDeep_iff {event : Event} :
    event.isTooDeep = true ↔ ∃ d ∈ event.diagnostic?, d.kind = .depthExceeded := by
  cases event <;> simp [isTooDeep, diagnostic?]

/-- A guard that strikes is recorded as a cycle or as an excess of depth, and nothing else is. -/
lemma isGuard_iff {event : Event} :
    event.isGuard = true ↔ ∃ d ∈ event.diagnostic?,
      d.kind = .referenceCycle ∨ d.kind = .depthExceeded := by
  cases event <;> simp [isGuard, diagnostic?]

/-- Events that are told by their diagnostics are missing exactly if no such diagnostic is left. -/
lemma forall_eq_false_iff {strikes : Event → Bool} {marked : Diagnostic → Prop}
    (h : ∀ event, strikes event = true ↔ ∃ d ∈ event.diagnostic?, marked d) {events : List Event} :
    (∀ event ∈ events, strikes event = false) ↔ ∀ d ∈ diagnosticsOf events, ¬ marked d := by
  constructor
  · intro havoids d hd hmarked
    obtain ⟨event, hevent, hdiagnostic⟩ := List.mem_filterMap.1 hd
    have hfalse := havoids event hevent
    rw [(h event).2 ⟨d, hdiagnostic, hmarked⟩] at hfalse
    exact absurd hfalse (by decide)
  · intro hnone event hevent
    rw [Bool.eq_false_iff]
    intro hstrikes
    obtain ⟨d, hd, hmarked⟩ := (h event).1 hstrikes
    exact hnone d (List.mem_filterMap.2 ⟨event, hevent, hd⟩) hmarked

end Event

namespace Run

variable {α β : Type} {strikes : Event → Bool}

/-- The run leaves no event that `strikes`. -/
def Avoids (strikes : Event → Bool) (run : Run α) : Prop :=
  ∀ event ∈ run.events, strikes event = false

/-- No guard strikes during the run. -/
abbrev Unguarded (run : Run α) : Prop := run.Avoids Event.isGuard

/-- No guard strikes exactly if neither a cycle nor an excess of depth is recorded. -/
lemma unguarded_iff {run : Run α} :
    run.Unguarded ↔ ∀ d ∈ diagnosticsOf run.events,
      d.kind ≠ .referenceCycle ∧ d.kind ≠ .depthExceeded := by
  unfold Unguarded Avoids
  simp only [Event.forall_eq_false_iff fun _ => Event.isGuard_iff, not_or, ne_eq]

/-- A run of two steps leaves no event that strikes exactly if neither step does. -/
lemma avoids_bind_iff {run : Run α} {next : α → Run β} :
    (run >>= next).Avoids strikes ↔
      run.Avoids strikes ∧ ∀ a, run.result = .ok a → (next a).Avoids strikes := by
  constructor
  · intro h
    refine ⟨fun event hevent => ?_, fun a ha event hevent => ?_⟩
    · exact h event (mem_events_bind.2 (Or.inl hevent))
    · exact h event (mem_events_bind.2 (Or.inr ⟨a, ha, hevent⟩))
  · rintro ⟨hrun, hnext⟩ event hevent
    rcases mem_events_bind.1 hevent with hevent | ⟨a, ha, hevent⟩
    · exact hrun event hevent
    · exact hnext a ha event hevent

@[simp] lemma avoids_pure (a : α) : (pure a : Run α).Avoids strikes :=
  fun _ h => absurd h List.not_mem_nil

@[simp] lemma avoids_ofDigits (result : Except TooManyDigits α) :
    (ofDigits result).Avoids strikes :=
  fun _ h => absurd h List.not_mem_nil

@[simp] lemma avoids_emit {event : Event} :
    (emit event).Avoids strikes ↔ strikes event = false := by
  simp [Avoids]

/-- A run that begins with an event that strikes does not avoid it. -/
lemma not_avoids_emit {event : Event} (h : strikes event = true) {next : Unit → Run β} :
    ¬ (emit event >>= next).Avoids strikes := by
  intro havoids
  have hfalse := avoids_emit.1 (avoids_bind_iff.1 havoids).1
  rw [h] at hfalse
  exact absurd hfalse (by decide)

/-- Two steps that agree where nothing strikes agree one after the other. -/
lemma bind_agrees {run run' : Run α} {next next' : α → Run β}
    (h : (run >>= next).Avoids strikes) (hrun : run.Avoids strikes → run' = run)
    (hnext : ∀ a, (next a).Avoids strikes → next' a = next a) : run' >>= next' = run >>= next := by
  obtain ⟨hfirst, hsecond⟩ := avoids_bind_iff.1 h
  rw [hrun hfirst]
  cases hresult : run.result with
  | error fault => rw [bind_of_error hresult, bind_of_error hresult]
  | ok a => rw [bind_of_ok hresult, bind_of_ok hresult, hnext a (hsecond a hresult)]

lemma foldlM_agrees {step step' : β → α → Run β}
    (hstep : ∀ b a, (step b a).Avoids strikes → step' b a = step b a) {list : List α} {b : β}
    (h : (list.foldlM step b).Avoids strikes) : list.foldlM step' b = list.foldlM step b := by
  induction list generalizing b with
  | nil => rfl
  | cons a rest ih =>
    rw [List.foldlM_cons] at h ⊢
    rw [List.foldlM_cons]
    exact bind_agrees h (hstep b a) fun b' hrest => ih hrest

end Run

/-- The settings with another ceiling. -/
def Settings.withCeiling (settings : Settings) (ceiling : Int) : Settings :=
  { settings with maxDepth := ceiling }

namespace Compile

/-- The type that the calls of a chain describe, where `text` is what they were read from. -/
def callsType (ctx : Context) (inner : List String → List Char → Run TypeTree)
    (visiting : List String) (text : List Char) (calls : List Call) : Run TypeTree :=
  if Kind.ofChain ctx.table ctx.settings calls = .unknown then do
    Run.emit (.unrecognized text)
    return .unknown
  else
    match arraySuffix? ctx.settings calls with
    | some place => do
      let items ← inner visiting (Chain.render (calls.take place))
      return .array (some items) (← Run.ofDigits (sizeBounds (calls.drop (place + 1))))
    | none => chainType ctx inner visiting text calls

/-- One level of compilation reads the calls of a chain and goes by them. -/
lemma compile_eq (ctx : Context) (levels : ℕ) (visiting : List String) (text : List Char) :
    compile ctx (levels + 1) visiting text
      = callsType ctx (compile ctx levels) visiting (Text.trim (Chain.withoutDefaults text))
          ((Chain.parse (Text.trim (Chain.withoutDefaults text))).getD []) := rfl

/-- The context with another ceiling. -/
def Context.withCeiling (ctx : Context) (ceiling : Int) : Context :=
  { ctx with settings := ctx.settings.withCeiling ceiling }

/-- Only the levels below the ceiling say where it is. -/
lemma callsType_withCeiling (ctx : Context) (ceiling : Int)
    (inner : List String → List Char → Run TypeTree) (visiting : List String) (text : List Char)
    (calls : List Call) :
    callsType (ctx.withCeiling ceiling) inner visiting text calls
      = callsType ctx inner visiting text calls := rfl

/-- Of the declarations under way, at most some that strike when they are cut are no longer so. -/
structure Narrows (strikes : Event → Bool) (visiting' visiting : List String) : Prop where
  subset : visiting' ⊆ visiting
  cut : ∀ name ∈ visiting, name ∈ visiting' ∨ strikes (.cycle name) = true

variable {strikes : Event → Bool} {visiting visiting' : List String}

/-- If every cut strikes, any fewer declarations may be under way. -/
lemma Narrows.of_subset (hcycle : ∀ name, strikes (.cycle name) = true)
    (h : visiting' ⊆ visiting) : Narrows strikes visiting' visiting :=
  ⟨h, fun name _ => Or.inr (hcycle name)⟩

lemma Narrows.refl (visiting : List String) : Narrows strikes visiting visiting :=
  ⟨List.Subset.refl _, fun _ hmem => Or.inl hmem⟩

lemma Narrows.cons (h : Narrows strikes visiting' visiting) (name : String) :
    Narrows strikes (name :: visiting') (name :: visiting) := by
  refine ⟨List.cons_subset_cons name h.subset, fun other hother => ?_⟩
  rcases List.mem_cons.1 hother with rfl | hmem
  · exact Or.inl List.mem_cons_self
  · exact (h.cut other hmem).imp_left (List.mem_cons_of_mem name)

/-- The compilation `inner'` of what is nested below gives what `inner` gives where nothing strikes,
also if fewer declarations are under way. -/
def Agrees (strikes : Event → Bool) (inner' inner : List String → List Char → Run TypeTree) :
    Prop :=
  ∀ visiting visiting' text, Narrows strikes visiting' visiting →
    (inner visiting text).Avoids strikes → inner' visiting' text = inner visiting text

variable {ctx : Context} {inner inner' : List String → List Char → Run TypeTree}
  (hinner : Agrees strikes inner' inner) (hsub : Narrows strikes visiting' visiting)

include hinner hsub

lemma arrayType_agrees {constructor : Call} {modifiers : List Call}
    (h : (arrayType (inner visiting) constructor modifiers).Avoids strikes) :
    arrayType (inner' visiting') constructor modifiers
      = arrayType (inner visiting) constructor modifiers := by
  unfold arrayType at h ⊢
  simp only at h ⊢
  split at h
  · rename_i hempty
    rw [if_pos hempty, if_pos hempty]
  · rename_i hfull
    rw [if_neg hfull, if_neg hfull]
    exact Run.bind_agrees h (hinner visiting visiting' _ hsub) fun _ _ => rfl

lemma addEntry_agrees {settings : Settings} {shape : Shape} {entry : List Char}
    (h : (addEntry (inner visiting) settings shape entry).Avoids strikes) :
    addEntry (inner' visiting') settings shape entry
      = addEntry (inner visiting) settings shape entry := by
  unfold addEntry at h ⊢
  split at h
  · rfl
  · exact Run.bind_agrees h (hinner visiting visiting' _ hsub) fun _ _ => rfl

lemma objectType_agrees {settings : Settings} {constructor : Call} {modifiers : List Call}
    (h : (objectType (inner visiting) settings constructor modifiers).Avoids strikes) :
    objectType (inner' visiting') settings constructor modifiers
      = objectType (inner visiting) settings constructor modifiers := by
  unfold objectType at h ⊢
  simp only at h ⊢
  split at h
  · rfl
  · refine Run.bind_agrees h (fun hfold => ?_) fun _ _ => rfl
    exact Run.foldlM_agrees (fun _ _ => addEntry_agrees hinner hsub) hfold

lemma referenceType_agrees {name : String}
    (h : (referenceType inner ctx.table visiting name).Avoids strikes) :
    referenceType inner' ctx.table visiting' name
      = referenceType inner ctx.table visiting name := by
  unfold referenceType at h ⊢
  split at h
  · -- a cut that strikes is excluded, and one that does not is made in both
    rename_i hvisiting
    rcases hsub.cut name (List.contains_iff_mem.1 hvisiting) with hmem | hstrikes
    · rw [if_pos (List.contains_iff_mem.2 hmem), if_pos hvisiting]
    · exact absurd h (Run.not_avoids_emit hstrikes)
  · rename_i hvisiting
    have hvisiting' : ¬ visiting'.contains name = true := by
      intro hmem
      exact hvisiting (List.contains_iff_mem.2 (hsub.subset (List.contains_iff_mem.1 hmem)))
    rw [if_neg hvisiting', if_neg hvisiting]
    exact Run.bind_agrees h (fun _ => rfl) fun _ => hinner _ _ _ (hsub.cons name)

lemma chainType_agrees {text : List Char} {calls : List Call}
    (h : (chainType ctx inner visiting text calls).Avoids strikes) :
    chainType ctx inner' visiting' text calls = chainType ctx inner visiting text calls := by
  unfold chainType at h ⊢
  simp only at h ⊢
  split at h
  · exact referenceType_agrees hinner hsub h
  · rfl
  · rfl
  · rfl
  · rfl
  · exact arrayType_agrees hinner hsub h
  · exact objectType_agrees hinner hsub h
  · rfl

lemma callsType_agrees {text : List Char} {calls : List Call}
    (h : (callsType ctx inner visiting text calls).Avoids strikes) :
    callsType ctx inner' visiting' text calls = callsType ctx inner visiting text calls := by
  unfold callsType at h ⊢
  split at h
  · rename_i hunknown
    rw [if_pos hunknown, if_pos hunknown]
  · rename_i hknown
    rw [if_neg hknown, if_neg hknown]
    split at h
    · exact Run.bind_agrees h (hinner visiting visiting' _ hsub) fun _ _ => rfl
    · exact chainType_agrees hinner hsub h

omit hinner hsub

/-- A compilation in which nothing strikes is the same with more levels below the ceiling, wherever
that is, and with fewer declarations under way. -/
theorem compile_of_avoids (hdeep : ∀ ceiling text, strikes (.tooDeep ceiling text) = true)
    (ceiling : Int) {levels levels' : ℕ} (hle : levels ≤ levels') :
    Agrees strikes (compile (ctx.withCeiling ceiling) levels') (compile ctx levels) := by
  induction levels generalizing levels' with
  | zero =>
    intro visiting visiting' text _ h
    exact absurd h (Run.not_avoids_emit (hdeep _ text))
  | succ levels ih =>
    cases levels' with
    | zero => exact absurd hle (Nat.not_succ_le_zero _)
    | succ levels' =>
      intro visiting visiting' text hsub h
      rw [compile_eq] at h ⊢
      rw [callsType_withCeiling]
      exact callsType_agrees (ih (Nat.le_of_succ_le_succ hle)) hsub h

/-- More levels below one ceiling change nothing where no guard strikes. -/
lemma agrees_of_le {levels levels' : ℕ} (hle : levels ≤ levels') :
    Agrees Event.isGuard (compile ctx levels') (compile ctx levels) :=
  compile_of_avoids (fun _ _ => rfl) ctx.settings.maxDepth hle

/-- A compilation that no guard cuts off is the same with more levels below the ceiling and with
fewer declarations under way. -/
lemma compile_of_unguarded {levels levels' : ℕ} (hle : levels ≤ levels')
    (hsub : visiting' ⊆ visiting) {text : List Char}
    (h : (compile ctx levels visiting text).Unguarded) :
    compile ctx levels' visiting' text = compile ctx levels visiting text :=
  agrees_of_le hle _ _ text (.of_subset (fun _ => rfl) hsub) h

end Compile
end SlideContract
