import SlideContract.Proofs.Compile.Sublist
import SlideContract.Proofs.Entries

/-!
# Compilation that ends

Reading an integer is all that can go wrong while an expression is compiled, and it goes wrong only
if the integer has too many digits. These stand in a text that was written, so that nothing goes
wrong where neither the expression nor a declaration has as many.

* `naturalArgument_ends`, `numberArgument_ends`: arguments with few digits are read;
* `BoundsHave.of_fewDigits`: so are the bounds of a chain;
* `compile_ends`: an expression with few digits is compiled to a tree.
-/

namespace SlideContract
open scoped List

/-- The text has no more decimal digits than are read of an integer. -/
def Text.FewDigits (text : List Char) : Prop := text.countP Text.isDigit ≤ digitLimit

lemma Text.FewDigits.sublist {text part : List Char} (h : FewDigits text) (hpart : part <+ text) :
    FewDigits part :=
  hpart.countP_le.trans h

namespace Run

/-- The run ends with a value. -/
def Ends {α : Type} (run : Run α) : Prop := ∃ a, run.result = .ok a

lemma stepwise_ends : Stepwise fun _ run => run.Ends where
  pure a := ⟨a, rfl⟩
  bind h hnext := by
    obtain ⟨a, ha⟩ := h
    obtain ⟨b, hb⟩ := hnext a ha
    exact ⟨b, result_bind_eq_ok.2 ⟨a, ha, hb⟩⟩

lemma emit_ends (event : Event) : (emit event).Ends := ⟨(), rfl⟩

lemma ofDigits_ends {α : Type} {result : Except TooManyDigits α} (h : ∃ a, result = .ok a) :
    (ofDigits result).Ends :=
  h.imp fun _ => result_ofDigits_eq_ok.2

end Run

namespace Compile
open Chain Text

variable {text : List Char}

/-! ## Arguments -/

/-- A run of digits in a text with few of them is read. -/
lemma readNat_ends {digits : List Char} (h : FewDigits digits)
    (hdigits : ∀ c ∈ digits, isDigit c = true) : ∃ n, readNat digits = .ok n := by
  unfold FewDigits at h
  rw [List.countP_eq_length.2 hdigits] at h
  exact ⟨natOfDigits digits, if_pos h⟩

lemma naturalArgument_ends (h : FewDigits text) : ∃ n, naturalArgument text = .ok n := by
  unfold naturalArgument
  split
  · rename_i hall
    rw [Bool.and_eq_true, List.all_eq_true] at hall
    obtain ⟨n, hn⟩ := readNat_ends h hall.2
    exact ⟨some n, by rw [hn]; rfl⟩
  · exact ⟨none, rfl⟩

lemma sublist_sign (text : List Char) : (sign text).2 <+ text := by
  unfold sign
  split
  · exact List.sublist_cons_self _ _
  · exact List.sublist_cons_self _ _
  · exact List.Sublist.refl _

/-- The digits before the point of a numeral are a run of digits in its text. -/
lemma whole_of_numeral? {n : Numeral} (h : numeral? text = some n) :
    n.whole <+ text ∧ ∀ c ∈ n.whole, isDigit c = true := by
  have hwhole : n.whole = (sign text).2.takeWhile isDigit := by
    simp only [numeral?, Option.bind_eq_bind] at h
    -- with a point and without one, the whole digits are read first
    split at h
    all_goals
      split at h
      · exact absurd h (by simp)
      · obtain ⟨exponent, -, hn⟩ := Option.bind_eq_some_iff.1 h
        rw [← Option.some.inj hn]
  rw [hwhole]
  exact ⟨(List.takeWhile_sublist _).trans (sublist_sign text),
    fun c hc => List.mem_takeWhile_imp hc⟩

lemma numberArgument_ends (h : FewDigits text) : ∃ n, numberArgument text = .ok n := by
  unfold numberArgument
  split
  · rename_i n hn
    obtain ⟨hwhole, hdigits⟩ := whole_of_numeral? hn
    obtain ⟨i, hi⟩ := readNat_ends (h.sublist hwhole) hdigits
    -- a numeral with a point or an exponent is read whatever its length
    suffices hnumber : ∃ number, n.number = .ok number by
      obtain ⟨number, hnumber⟩ := hnumber
      exact ⟨some number, by rw [hnumber]; rfl⟩
    unfold Numeral.number readInt
    simp only [hi]
    split
    · exact ⟨_, rfl⟩
    · split
      · split
        · exact ⟨_, rfl⟩
        · exact ⟨_, rfl⟩
      · exact ⟨_, rfl⟩
  · exact ⟨none, rfl⟩

/-! ## Bounds -/

variable {calls : List Call} {b : Bounds} {call : Call}

lemma lengthStep_ends (h : FewDigits (firstArgument call.args)) (b : Bounds) :
    ∃ b', lengthStep b call = .ok b' := by
  obtain ⟨n, hn⟩ := naturalArgument_ends h
  unfold lengthStep
  rw [hn]
  split
  · cases n with
    | none => exact ⟨_, rfl⟩
    | some n => exact ⟨_, rfl⟩
  · exact ⟨_, rfl⟩

lemma rangeStep_ends (h : FewDigits (firstArgument call.args)) (b : Bounds) :
    ∃ b', rangeStep b call = .ok b' := by
  obtain ⟨n, hn⟩ := numberArgument_ends h
  unfold rangeStep
  rw [hn]
  split
  · cases n with
    | none => exact ⟨_, rfl⟩
    | some n => exact ⟨_, rfl⟩
  · exact ⟨_, rfl⟩

lemma sizeStep_ends (h : FewDigits (firstArgument call.args)) (b : Bounds) :
    ∃ b', sizeStep b call = .ok b' := by
  unfold sizeStep
  split
  · exact ⟨_, rfl⟩
  · exact lengthStep_ends h b

/-- Bounds are read if each of their steps is. -/
lemma foldlM_ends {step : Bounds → Call → Except TooManyDigits Bounds}
    (hstep : ∀ call ∈ calls, ∀ b, ∃ b', step b call = .ok b') (b : Bounds) :
    ∃ b', calls.foldlM step b = .ok b' := by
  induction calls generalizing b with
  | nil => exact ⟨b, rfl⟩
  | cons call rest ih =>
    obtain ⟨next, hnext⟩ := hstep call List.mem_cons_self b
    obtain ⟨b', hb'⟩ := ih (fun c hc => hstep c (List.mem_cons_of_mem _ hc)) next
    refine ⟨b', ?_⟩
    rw [List.foldlM_cons, hnext]
    exact hb'

/-- The bounds of a chain with few digits are read. -/
lemma BoundsHave.of_fewDigits (h : FewDigits (render calls)) :
    BoundsHave (fun _ run => run.Ends) calls := by
  have harguments : ∀ n, ∀ call ∈ calls.drop n, FewDigits (firstArgument call.args) :=
    fun n call hcall => h.sublist (sublist_firstArgument_of_mem (List.mem_of_mem_drop hcall))
  refine ⟨fun n => ?_, fun n => ?_, fun n => ?_⟩
  · exact Run.ofDigits_ends (foldlM_ends (fun c hc => lengthStep_ends (harguments n c hc)) _)
  · exact Run.ofDigits_ends (foldlM_ends (fun c hc => rangeStep_ends (harguments n c hc)) _)
  · exact Run.ofDigits_ends (foldlM_ends (fun c hc => sizeStep_ends (harguments n c hc)) _)

/-! ## All levels -/

/-- An expression with few digits is compiled to a tree, among declarations with few digits. -/
theorem compile_ends {ctx : Context}
    (htable : ∀ declaration ∈ ctx.table, FewDigits declaration.2) {levels : ℕ}
    {visiting : List String} (h : FewDigits text) : (compile ctx levels visiting text).Ends := by
  induction levels generalizing visiting text with
  | zero => exact Run.stepwise_ends.bind (Run.emit_ends _) fun _ _ => Run.stepwise_ends.pure _
  | succ levels ih =>
    -- whatever is compiled next was written in this text, or in a declaration
    have hcalls : FewDigits (render (callsOf text)) := h.sublist (sublist_render_callsOf text)
    rw [compile_eq]
    refine callsType_stepwise Run.stepwise_ends (fun event _ => Run.emit_ends event) _
      (.of_fewDigits hcalls) (fun part hpart => ?_) fun name _ => ?_
    · exact ih (hcalls.sublist (sublist_of_mem_partsOf hpart))
    · refine referenceType_stepwise Run.stepwise_ends (fun event _ => Run.emit_ends event)
        (fun _ => Run.emit_ends _) fun _ => ih ?_
      cases hname : Entries.get? name ctx.table with
      | none => exact Nat.zero_le _
      | some declared => exact htable _ (Entries.mem_of_get? hname)

end Compile
end SlideContract
