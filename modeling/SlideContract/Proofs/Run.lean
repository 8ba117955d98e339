import Mathlib.Data.List.Forall2
import Mathlib.Tactic.Common
import SlideContract.Run

/-!
# Laws of runs

Runs follow one another: a run that ends with a value hands it on and keeps its events in front, a
run that ends with a fault is the end. What a step can come to is read off with `result_bind_eq_ok`,
and with `Except.bind_eq_ok` where there are no events.
-/

namespace SlideContract

variable {ε α β γ : Type}

/-- Two steps give a value exactly if both do. -/
lemma Except.bind_eq_ok {result : Except ε α} {next : α → Except ε β} {b : β} :
    result >>= next = .ok b ↔ ∃ a, result = .ok a ∧ next a = .ok b := by
  cases result with
  | error fault => exact iff_of_false (by rintro ⟨⟩) (by rintro ⟨_, ⟨⟩, _⟩)
  | ok a => exact ⟨fun h => ⟨a, rfl, h⟩, fun ⟨_, ha, h⟩ => Except.ok.inj ha ▸ h⟩

/-- What is made of a value is given exactly if the value is. -/
lemma Except.map_eq_ok {result : Except ε α} {f : α → β} {b : β} :
    result.map f = .ok b ↔ ∃ a, result = .ok a ∧ f a = b := by
  cases result with
  | error fault => exact iff_of_false (by rintro ⟨⟩) (by rintro ⟨_, ⟨⟩, _⟩)
  | ok a =>
    constructor
    · exact fun h => ⟨a, rfl, Except.ok.inj h⟩
    · rintro ⟨_, ⟨⟩, rfl⟩
      rfl

/-- And it is not given for the same reason. -/
lemma Except.map_eq_error {result : Except ε α} {f : α → β} {fault : ε} :
    result.map f = .error fault ↔ result = .error fault := by
  cases result with
  | error other =>
    exact ⟨fun h => congrArg _ (Except.error.inj h), fun h => congrArg _ (Except.error.inj h)⟩
  | ok a => exact iff_of_false nofun nofun

section mapM

variable {f : α → Except ε β} {l : List α} {bs : List β}

/-- Steps through a list give values exactly if each one gives its value. -/
lemma Except.mapM_eq_ok_iff :
    l.mapM f = .ok bs ↔ List.Forall₂ (fun a b => f a = .ok b) l bs := by
  induction l generalizing bs with
  | nil =>
    rw [List.mapM_nil, List.forall₂_nil_left_iff]
    exact ⟨fun h => (Except.ok.inj h).symm, fun h => congrArg Except.ok h.symm⟩
  | cons a rest ih =>
    rw [List.mapM_cons, Except.bind_eq_ok, List.forall₂_cons_left_iff]
    constructor
    · rintro ⟨b, hb, h⟩
      obtain ⟨bs, hbs, h⟩ := Except.bind_eq_ok.1 h
      exact ⟨b, bs, hb, ih.1 hbs, (Except.ok.inj h).symm⟩
    · rintro ⟨b, bs, hb, hbs, rfl⟩
      exact ⟨b, hb, Except.bind_eq_ok.2 ⟨bs, ih.2 hbs, rfl⟩⟩

/-- What steps through a list give comes of the entries of the list. -/
lemma Except.exists_of_mem_mapM (h : l.mapM f = .ok bs) {b : β} (hb : b ∈ bs) :
    ∃ a ∈ l, f a = .ok b := by
  have hpairs := Except.mapM_eq_ok_iff.1 h
  clear h
  induction hpairs with
  | nil => exact absurd hb List.not_mem_nil
  | cons hfirst _ ih =>
    rcases List.mem_cons.1 hb with rfl | hb
    · exact ⟨_, List.mem_cons_self, hfirst⟩
    · obtain ⟨a, ha, hvalue⟩ := ih hb
      exact ⟨a, List.mem_cons_of_mem _ ha, hvalue⟩

/-- Steps through a list leave it as it is exactly if each one does. -/
lemma Except.mapM_eq_self_iff {f : α → Except ε α} :
    l.mapM f = .ok l ↔ ∀ a ∈ l, f a = .ok a := by
  rw [Except.mapM_eq_ok_iff, List.forall₂_same]

/-- Steps through a list give values exactly if they do at each of its entries. -/
lemma Except.exists_mapM_iff : (∃ bs, l.mapM f = .ok bs) ↔ ∀ a ∈ l, ∃ b, f a = .ok b := by
  simp only [Except.mapM_eq_ok_iff]
  induction l with
  | nil => exact iff_of_true ⟨[], .nil⟩ fun a h => absurd h List.not_mem_nil
  | cons a rest ih =>
    rw [List.forall_mem_cons, ← ih]
    constructor
    · rintro ⟨bs, h⟩
      cases h with
      | cons hfirst hrest => exact ⟨⟨_, hfirst⟩, _, hrest⟩
    · rintro ⟨⟨b, hb⟩, bs, hbs⟩
      exact ⟨b :: bs, .cons hb hbs⟩

end mapM

namespace Run

@[simp] lemma result_pure (a : α) : (pure a : Run α).result = .ok a := rfl

lemma pure_inj {a b : α} : (pure a : Run α) = pure b ↔ a = b :=
  ⟨fun h => Except.ok.inj (congrArg Run.result h), fun h => h ▸ rfl⟩

@[simp] lemma events_pure (a : α) : (pure a : Run α).events = [] := rfl

@[simp] lemma result_emit (event : Event) : (emit event).result = .ok () := rfl

@[simp] lemma events_emit (event : Event) : (emit event).events = [event] := rfl

@[simp] lemma events_ofDigits (result : Except TooManyDigits α) :
    (ofDigits result).events = [] := rfl

lemma result_ofDigits_eq_ok {result : Except TooManyDigits α} {a : α} :
    (ofDigits result).result = .ok a ↔ result = .ok a := by
  cases result with
  | error fault => simp [ofDigits, Except.mapError]
  | ok b => simp [ofDigits, Except.mapError]

lemma bind_of_ok {run : Run α} {a : α} (h : run.result = .ok a) (next : α → Run β) :
    run >>= next = { result := (next a).result, events := run.events ++ (next a).events } := by
  show run.andThen next = _
  rw [andThen, h]

lemma bind_of_error {run : Run α} {fault : Fault} (h : run.result = .error fault)
    (next : α → Run β) : run >>= next = { result := .error fault, events := run.events } := by
  show run.andThen next = _
  rw [andThen, h]

/-- A run of two steps ends as the second does behind the value of the first. -/
lemma result_bind (run : Run α) (next : α → Run β) :
    (run >>= next).result = run.result.bind fun a => (next a).result := by
  cases h : run.result with
  | error fault => rw [bind_of_error h]; rfl
  | ok a => rw [bind_of_ok h]; rfl

/-- A run of two steps ends with a value exactly if both do. -/
lemma result_bind_eq_ok {run : Run α} {next : α → Run β} {b : β} :
    (run >>= next).result = .ok b ↔ ∃ a, run.result = .ok a ∧ (next a).result = .ok b := by
  cases h : run.result with
  | error fault => simp [bind_of_error h]
  | ok a => simp [bind_of_ok h]

/-- An event of two steps is one of the first, or one of the second step after its value. -/
lemma mem_events_bind {run : Run α} {next : α → Run β} {event : Event} :
    event ∈ (run >>= next).events ↔
      event ∈ run.events ∨ ∃ a, run.result = .ok a ∧ event ∈ (next a).events := by
  cases h : run.result with
  | error fault => simp [bind_of_error h]
  | ok a => simp [bind_of_ok h]

@[ext] lemma ext {run run' : Run α} (hresult : run.result = run'.result)
    (hevents : run.events = run'.events) : run = run' := by
  cases run
  cases run'
  simp_all

lemma pure_bind (a : α) (next : α → Run β) : pure a >>= next = next a := rfl

lemma bind_assoc (run : Run α) (next : α → Run β) (last : β → Run γ) :
    run >>= next >>= last = run >>= fun a => next a >>= last := by
  cases h : run.result with
  | error fault =>
    rw [bind_of_error h, bind_of_error h]
    exact bind_of_error rfl last
  | ok a =>
    rw [bind_of_ok h, bind_of_ok h]
    cases h' : (next a).result with
    | error fault =>
      rw [bind_of_error h']
      exact bind_of_error rfl last
    | ok b =>
      have hjoin : ({ result := .ok b, events := run.events ++ (next a).events } : Run β) >>= last
          = { result := (last b).result
              events := (run.events ++ (next a).events) ++ (last b).events } :=
        bind_of_ok rfl last
      rw [bind_of_ok h', hjoin, List.append_assoc]

lemma bind_pure (run : Run α) : run >>= pure = run := by
  cases h : run.result with
  | error fault => exact (bind_of_error h pure).trans (ext h.symm rfl)
  | ok a => exact (bind_of_ok h pure).trans (ext h.symm (List.append_nil _))

instance : LawfulMonad Run := .mk' Run bind_pure pure_bind bind_assoc

end Run
end SlideContract
