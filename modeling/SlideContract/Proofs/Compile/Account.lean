import SlideContract.Proofs.Compile.Open

/-!
# Unknown fragments and their diagnostics

Every unknown fragment of a compiled tree has left a diagnostic, but for the items of arrays that
are written without any. A run accounts for its value if this has no more unknown fragments than the
run leaves diagnostics of losses. A field that takes the place of an earlier one takes fragments
away, but no diagnostics.

* `Run.Accounts`, `Run.Accounts.bind`: accounts of a run, and of two steps;
* `accounts_openCompile`: compilation that leaves arrays open accounts for its tree;
* `unknowns_le_diagnostics`: the unknown fragments of a compiled tree.
-/

namespace SlideContract

namespace TypeTree

mutual

/-- How many fragments of the tree are unknown. -/
def unknowns : TypeTree → ℕ
  | .unknown => 1
  | .array (some items) _ => items.unknowns
  | .object properties _ => propertyUnknowns properties
  | _ => 0

/-- How many fragments of the properties are unknown. -/
def propertyUnknowns : List (String × TypeTree) → ℕ
  | [] => 0
  | (_, tree) :: rest => tree.unknowns + propertyUnknowns rest

end

/-- A property that takes the place of another leaves no more unknown fragments than it brings. -/
lemma propertyUnknowns_set (name : String) (tree : TypeTree)
    (properties : List (String × TypeTree)) :
    propertyUnknowns (Entries.set name tree properties)
      ≤ propertyUnknowns properties + tree.unknowns := by
  induction properties with
  | nil =>
    simp only [Entries.set, propertyUnknowns]
    omega
  | cons p rest ih =>
    obtain ⟨other, first⟩ := p
    by_cases h : other = name
    · simp only [Entries.set, propertyUnknowns, if_pos h]
      omega
    · simp only [Entries.set, propertyUnknowns, if_neg h]
      omega

end TypeTree

/-- The kind is that of a fragment that was not understood, or not gone into. -/
def DiagnosticKind.isLoss : DiagnosticKind → Bool
  | .unresolvedFragment | .referenceCycle | .depthExceeded => true
  | _ => false

/-- The event says that a fragment was not understood, or not gone into. -/
def Event.isLoss (event : Event) : Bool := (event.diagnostic?.map (·.kind.isLoss)).getD false

/-- The losses among events are those among their diagnostics. -/
lemma countP_isLoss (events : List Event) :
    events.countP Event.isLoss = ((diagnosticsOf events).filter (·.kind.isLoss)).length := by
  rw [← List.countP_eq_length_filter]
  unfold diagnosticsOf
  rw [List.countP_filterMap]
  rfl

namespace Run

variable {α β : Type} {measure : α → ℕ} {spent : ℕ}

/-- What is measured of the value of the run is no more than was spent before and the losses that
the run leaves. -/
def Accounts (measure : α → ℕ) (spent : ℕ) (run : Run α) : Prop :=
  ∀ a, run.result = .ok a → measure a ≤ spent + run.events.countP Event.isLoss

lemma accounts_pure {a : α} (h : measure a ≤ spent) : (pure a : Run α).Accounts measure spent := by
  intro b hb
  rw [← Except.ok.inj hb]
  exact Nat.le_trans h (Nat.le_add_right _ _)

/-- The second of two steps may spend what was measured of the first. -/
lemma Accounts.bind {run : Run α} {next : α → Run β} {measure' : β → ℕ}
    (h : run.Accounts measure spent) (hnext : ∀ a, (next a).Accounts measure' (measure a)) :
    (run >>= next).Accounts measure' spent := by
  intro b hb
  obtain ⟨a, ha, hb⟩ := result_bind_eq_ok.1 hb
  have hfirst := h a ha
  have hsecond := hnext a b hb
  rw [bind_of_ok ha, List.countP_append]
  omega

lemma Accounts.add {run : Run α} (h : run.Accounts measure 0) (spent : ℕ) :
    run.Accounts (fun a => spent + measure a) spent := by
  intro a ha
  have hless := h a ha
  show spent + measure a ≤ _
  omega

/-- An event that is no loss changes nothing. -/
lemma accounts_emit {event : Event} {next : Unit → Run β} {measure' : β → ℕ}
    (hnext : (next ()).Accounts measure' spent) :
    (emit event >>= next).Accounts measure' spent := by
  intro b hb
  obtain ⟨_, -, hb⟩ := result_bind_eq_ok.1 hb
  have hless := hnext b hb
  rw [bind_of_ok (result_emit event), List.countP_append]
  omega

/-- A loss accounts for one unknown fragment. -/
lemma accounts_loss {event : Event} (h : event.isLoss = true) :
    (do emit event; return .unknown : Run TypeTree).Accounts TypeTree.unknowns 0 := by
  intro tree htree
  obtain ⟨_, -, htree⟩ := result_bind_eq_ok.1 htree
  rw [← Except.ok.inj htree, bind_of_ok (result_emit event)]
  simp only [events_emit, events_pure, List.append_nil, List.countP_cons, h, TypeTree.unknowns]
  decide

/-- A run through a list accounts for its value if each of its steps does. -/
lemma accounts_foldlM {step : β → α → Run β} {measure : β → ℕ}
    (hstep : ∀ b a, (step b a).Accounts measure (measure b)) (list : List α) (b : β) :
    (list.foldlM step b).Accounts measure (measure b) := by
  induction list generalizing b with
  | nil => exact accounts_pure (Nat.le_refl _)
  | cons a rest ih =>
    rw [List.foldlM_cons]
    exact (hstep b a).bind ih

end Run

namespace Compile
open TypeTree

/-- Reading bounds adds no unknown fragment. -/
lemma bounded_accounts (result : Except TooManyDigits Bounds) {wrap : Bounds → TypeTree} {spent : ℕ}
    (h : ∀ b, (wrap b).unknowns ≤ spent) :
    (do return wrap (← Run.ofDigits result) : Run TypeTree).Accounts unknowns spent := by
  intro tree htree
  obtain ⟨b, -, htree⟩ := Run.result_bind_eq_ok.1 htree
  rw [← Except.ok.inj htree]
  exact Nat.le_trans (h b) (Nat.le_add_right _ _)

lemma enumType_accounts (constructor : Call) (text : List Char) :
    (enumType constructor text).Accounts unknowns 0 := by
  unfold enumType
  simp only
  split
  · split
    · exact Run.accounts_pure (Nat.le_refl _)
    · exact Run.accounts_loss rfl
  · split
    · exact Run.accounts_pure (Nat.le_refl _)
    · exact Run.accounts_emit (Run.accounts_pure (Nat.le_refl _))

section Items

variable {inner : List Char → Run TypeTree} (hinner : ∀ text, (inner text).Accounts unknowns 0)

include hinner

/-- An array has as many unknown fragments as its items. -/
lemma items_accounts (text : List Char) (result : Except TooManyDigits Bounds) :
    (do
      let items ← inner text
      return .array (some items) (← Run.ofDigits result) : Run TypeTree).Accounts unknowns 0 :=
  (hinner text).bind fun _ => bounded_accounts result fun _ => Nat.le_refl _

lemma openArrayType_accounts (constructor : Call) (modifiers : List Call) :
    (openArrayType inner constructor modifiers).Accounts unknowns 0 := by
  unfold openArrayType arrayType
  simp only
  split
  · exact Run.accounts_emit (bounded_accounts _ fun _ => Nat.le_refl _)
  · exact items_accounts hinner _ _

lemma addEntry_accounts (settings : Settings) (shape : Shape) (entry : List Char) :
    (addEntry inner settings shape entry).Accounts
      (fun shape => propertyUnknowns shape.properties) (propertyUnknowns shape.properties) := by
  unfold addEntry
  split
  · exact Run.accounts_emit (Run.accounts_pure (Nat.le_refl _))
  · -- the fragments of an earlier field of the name stay paid for
    refine ((hinner _).add _).bind fun tree => Run.accounts_pure ?_
    exact propertyUnknowns_set _ _ _

lemma objectType_accounts (settings : Settings) (constructor : Call) (modifiers : List Call) :
    (objectType inner settings constructor modifiers).Accounts unknowns 0 := by
  unfold objectType
  simp only
  split
  · exact Run.accounts_emit (Run.accounts_pure (Nat.le_refl _))
  · refine (Run.accounts_foldlM (addEntry_accounts hinner settings) _ {}).bind fun shape => ?_
    exact Run.accounts_pure (Nat.le_refl _)

end Items

section Levels

variable {ctx : Context} {visiting : List String} {inner : List String → List Char → Run TypeTree}
  (hinner : ∀ visiting text, (inner visiting text).Accounts unknowns 0)

include hinner

lemma referenceType_accounts (table : Table) (name : String) :
    (referenceType inner table visiting name).Accounts unknowns 0 := by
  unfold referenceType
  split
  · exact Run.accounts_loss rfl
  · exact Run.accounts_emit (hinner _ _)

lemma openCallsType_accounts (text : List Char) (calls : List Call) :
    (openCallsType ctx inner visiting text calls).Accounts unknowns 0 := by
  unfold openCallsType callsType
  split
  · exact openArrayType_accounts (hinner visiting) _ _
  · rename_i hopen
    split
    · exact Run.accounts_loss rfl
    · rename_i hknown
      split
      · exact items_accounts (hinner visiting) _ _
      · rename_i hplace
        unfold chainType
        simp only
        split
        · exact referenceType_accounts hinner _ _
        · exact bounded_accounts _ fun _ => Nat.le_refl _
        · exact bounded_accounts _ fun _ => Nat.le_refl _
        · exact Run.accounts_pure (Nat.le_refl _)
        · exact enumType_accounts _ _
        · -- an array without a suffix is open, as above
          rename_i hkind
          exact absurd ⟨hplace, hkind⟩ hopen
        · exact objectType_accounts (hinner visiting) _ _ _
        · rename_i hkind
          exact absurd hkind hknown

end Levels

/-- The open tree has no more unknown fragments than losses are recorded. -/
theorem accounts_openCompile (ctx : Context) (levels : ℕ) (visiting : List String)
    (text : List Char) : (openCompile ctx levels visiting text).Accounts unknowns 0 := by
  induction levels generalizing visiting text with
  | zero => exact Run.accounts_loss rfl
  | succ levels ih => exact openCallsType_accounts ih _ _

/-- What an expression compiles to has, beside the items of arrays written without any, no more
unknown fragments than its compilation leaves diagnostics of losses. -/
theorem unknowns_le_diagnostics {ctx : Context} {visiting : List String} {depth : Int}
    {text : List Char} {tree : TypeTree}
    (h : (expression ctx visiting depth text).result = .ok tree) :
    ∃ marked, (openExpression ctx visiting depth text).result = .ok marked ∧ marked.filled = tree ∧
      marked.unknowns ≤ ((diagnosticsOf (expression ctx visiting depth text).events).filter
        (·.kind.isLoss)).length := by
  have hfilled : expression ctx visiting depth text
      = filled <$> openExpression ctx visiting depth text := compile_eq_filled _ _ _ _
  rw [← bind_pure_comp] at hfilled
  rw [hfilled] at h ⊢
  obtain ⟨marked, hmarked, htree⟩ := Run.result_bind_eq_ok.1 h
  have haccounts := accounts_openCompile _ _ _ _ marked hmarked
  refine ⟨marked, hmarked, Except.ok.inj htree, ?_⟩
  rw [← countP_isLoss, Run.bind_of_ok hmarked, Run.events_pure, List.append_nil]
  rw [Nat.zero_add] at haccounts
  exact haccounts

end Compile
end SlideContract
