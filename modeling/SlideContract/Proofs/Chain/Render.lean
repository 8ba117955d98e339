import SlideContract.Proofs.Chain.Spelling
import SlideContract.Proofs.Chain.Tame

/-!
# Rendered chains

The text of calls spells them, without blanks. If their argument lists are tame, so is the chain.

* `spells_render`, `parse_render`: parsing undoes rendering;
* `tame_render`: what can be said of the text as a part of a longer one.
-/

namespace SlideContract
open Scan Text

namespace Call

/-- A call that sets no default, with a tame argument list if it is called. -/
structure Spelled (c : Call) : Prop where
  name : IsIdentifier c.name.toList
  noDefault : c.name.toList.head? ≠ some 'd'
  args : ∀ args ∈ c.args, Tame args

variable {c : Call}

lemma Spelled.legible (h : c.Spelled) : c.Legible Balanced where
  name := h.name
  args args hargs := (h.args args hargs).balanced

lemma render_bare {name : String} : render ⟨name, none⟩ = name.toList := rfl

lemma render_called {name : String} {args : List Char} :
    render ⟨name, some args⟩ = name.toList ++ '(' :: (args ++ [')']) := by
  simp [render]

lemma Legible.starts {P : List Char → Prop} (h : c.Legible P) (text : List Char) :
    Starts (c.render ++ text) := by
  obtain ⟨name, args⟩ := c
  cases args with
  | none => exact h.name.starts text
  | some args =>
    rw [render_called, List.append_assoc]
    exact h.name.starts _

lemma Spelled.tame (h : c.Spelled) : Tame c.render := by
  obtain ⟨name, args⟩ := c
  cases args with
  | none => exact .name h.name.isNameChar
  | some args =>
    rw [render_called]
    refine (Tame.name h.name.isNameChar).append (.bracket rfl (h.args args rfl)) ?_
    exact stopper_of_isSeparator (by decide) (by decide) _

end Call

namespace Chain

/-- The text of the calls behind the first one. -/
def renderRest (calls : List Call) : List Char := calls.flatMap fun call => '.' :: call.render

@[simp] lemma renderRest_nil : renderRest [] = [] := rfl

@[simp] lemma renderRest_cons (call : Call) (calls : List Call) :
    renderRest (call :: calls) = '.' :: (call.render ++ renderRest calls) := rfl

lemma render_cons (call : Call) (calls : List Call) :
    render (call :: calls) = call.render ++ renderRest calls := by
  induction calls generalizing call with
  | nil => simp [render]
  | cons next rest ih =>
    have hnext := ih next
    unfold render at hnext ⊢
    rw [List.map_cons, List.map_cons, List.intercalate_cons_cons, ← List.map_cons, hnext]
    simp

lemma stopper_renderRest (calls : List Call) : Stopper (renderRest calls) := by
  cases calls with
  | nil => exact stopper_nil
  | cons call rest => exact stopper_of_isSeparator (by decide) (by decide) _

/-! ## Parsing -/

variable {P : List Char → Prop} {calls : List Call} {call : Call}

lemma spellsPart_render (h : call.Legible P) : SpellsPart P call.render call := by
  obtain ⟨name, args⟩ := call
  have hname := @String.ofList_toList name
  cases args with
  | none =>
    have hpart := @SpellsPart.bare P [] name.toList blanks_nil h.name
    rw [hname] at hpart
    exact hpart
  | some args =>
    have hpart := SpellsPart.called blanks_nil h.name blanks_nil (h.args args rfl)
    rw [hname] at hpart
    rw [Call.render_called]
    exact hpart

lemma spellsRest_renderRest (h : ∀ call ∈ calls, call.Legible P) :
    SpellsRest P (renderRest calls) calls := by
  induction calls with
  | nil => exact .nil
  | cons call rest ih =>
    rw [renderRest_cons]
    exact .part (spellsPart_render (h call List.mem_cons_self))
      (ih fun c hc => h c (List.mem_cons_of_mem _ hc))

/-- The text of calls spells them. -/
theorem spells_render (h : ∀ call ∈ calls, call.Legible P) (hne : calls ≠ []) :
    Spells P (render calls) calls := by
  cases calls with
  | nil => exact absurd rfl hne
  | cons call rest =>
    rw [render_cons]
    exact .chain (spellsPart_render (h call List.mem_cons_self))
      (spellsRest_renderRest fun c hc => h c (List.mem_cons_of_mem _ hc))

/-- Parsing undoes rendering. -/
theorem parse_render (h : ∀ call ∈ calls, call.Legible Balanced) (hne : calls ≠ []) :
    parse (render calls) = some calls :=
  parse_of_spells (spells_render h hne)

/-- Calls end with a parenthesis. -/
lemma getLast?_renderRest (h : ∀ call ∈ calls, call.isCalled = true) (hne : calls ≠ []) :
    (renderRest calls).getLast? = some ')' := by
  induction calls with
  | nil => exact absurd rfl hne
  | cons call rest ih =>
    cases rest with
    | nil =>
      obtain ⟨name, args⟩ := call
      cases args with
      | none => exact absurd (h _ List.mem_cons_self) (by simp [Call.isCalled])
      | some args =>
        rw [renderRest_cons, renderRest_nil, List.append_nil, Call.render_called,
          ← List.cons_append, ← List.cons_append, ← List.append_assoc, List.getLast?_concat]
    | cons next rest =>
      have hrest := ih (fun c hc => h c (List.mem_cons_of_mem _ hc)) (by simp)
      rw [renderRest_cons, ← List.cons_append, List.getLast?_append, hrest]
      rfl

lemma starts_render (h : ∀ call ∈ calls, call.Legible P) : Starts (render calls) := by
  cases calls with
  | nil => exact fun c hc => absurd hc (by simp [render])
  | cons call rest =>
    rw [render_cons]
    exact (h call List.mem_cons_self).starts _

lemma stops_render (h : ∀ call ∈ calls, call.Legible P) (hne : calls ≠ []) :
    Stops (render calls) := by
  induction calls with
  | nil => exact absurd rfl hne
  | cons call rest ih =>
    cases rest with
    | nil =>
      rw [render_cons, renderRest_nil, List.append_nil]
      exact (spellsPart_render (h call List.mem_cons_self)).stops.1
    | cons next rest =>
      have hrest := ih (fun c hc => h c (List.mem_cons_of_mem _ hc)) (by simp)
      obtain ⟨-, hnext⟩ := (spellsPart_render (h next (by simp))).stops
      rw [render_cons] at hrest ⊢
      rw [renderRest_cons]
      have hnonempty : next.render ++ renderRest rest ≠ [] := by simp [hnext]
      exact (hrest.append hnonempty ['.']).append (by simp) call.render

/-! ## As a part of a longer text -/

lemma tame_renderRest (h : ∀ call ∈ calls, call.Spelled) : Tame (renderRest calls) := by
  induction calls with
  | nil => exact .nil
  | cons call rest ih =>
    have hcall := h call List.mem_cons_self
    have htame := hcall.tame.append (ih fun c hc => h c (List.mem_cons_of_mem _ hc))
      (stopper_renderRest rest)
    have hstarts := hcall.legible.starts (renderRest rest)
    -- a rendered call begins with its name, so behind the dot stands a name that is not the
    -- default's
    have hhead : (call.render ++ renderRest rest).head? = call.name.toList.head? := by
      obtain ⟨c, cs, hname, -⟩ := hcall.name
      unfold Call.render
      split <;> simp [hname]
    have hdefault := hcall.noDefault
    obtain ⟨c, cs, hname, -⟩ := hcall.name
    rw [renderRest_cons]
    rw [← hhead] at hdefault
    rw [hname] at hhead
    cases htext : call.render ++ renderRest rest with
    | nil =>
      rw [htext] at hhead
      simp at hhead
    | cons d ds =>
      rw [htext] at htame hstarts hdefault
      exact .dot (by simpa using hdefault) (hstarts d rfl) htame

theorem tame_render (h : ∀ call ∈ calls, call.Spelled) : Tame (render calls) := by
  cases calls with
  | nil => exact .nil
  | cons call rest =>
    rw [render_cons]
    exact (h call List.mem_cons_self).tame.append
      (tame_renderRest fun c hc => h c (List.mem_cons_of_mem _ hc)) (stopper_renderRest rest)

end Chain
end SlideContract
