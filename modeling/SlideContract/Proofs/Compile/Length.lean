import SlideContract.Proofs.Compile.Sublist

/-!
# How long what is read can be

Reading a text never makes it longer, since what is read was written. The parts of a chain are even
shorter than the chain: an argument leaves out the parentheses around it, and what stands before an
array suffix leaves out the suffix.

* `length_render_take`: what stands before a call;
* `length_firstArgument_lt`: an argument.
-/

namespace SlideContract

namespace Chain

variable {calls : List Call}

/-- What stands before a call is written in less room, if it is anything. -/
lemma length_render_take {place : ℕ} (hpos : 0 < place) (hplace : place < calls.length) :
    (render (calls.take place)).length < (render calls).length := by
  -- the call at the place is left out, and takes a dot at least
  obtain ⟨call, others, hcalls⟩ := List.exists_cons_of_length_pos (Nat.zero_lt_of_lt hplace)
  obtain ⟨before, hbefore⟩ := Nat.exists_eq_add_of_lt hpos
  subst hcalls hbefore
  have hsplit := renderRest_append (others.take before) (others.drop before)
  rw [List.take_append_drop] at hsplit
  rw [Nat.zero_add, List.take_succ_cons, render_cons, render_cons, hsplit]
  simp only [List.length_append]
  have hlast : 0 < (renderRest (others.drop before)).length := by
    rw [List.length_cons] at hplace
    obtain ⟨next, behind, hdrop⟩ := List.exists_cons_of_length_pos
      (show 0 < (others.drop before).length by rw [List.length_drop]; omega)
    rw [hdrop, renderRest_cons, List.length_cons]
    exact Nat.succ_pos _
  omega

end Chain

namespace Compile
open Chain

variable {calls : List Call}

/-- An argument is shorter than the chain in which it stands. -/
lemma length_firstArgument_lt {call : Call} (h : call ∈ calls)
    (hargs : firstArgument call.args ≠ []) :
    (firstArgument call.args).length < (render calls).length := by
  have hcall := (sublist_render_of_mem h).length_le
  obtain ⟨name, args⟩ := call
  cases args with
  | none => exact absurd firstArgument_none hargs
  | some args =>
    have hfirst := (sublist_firstArgument args).length_le
    rw [Call.render_called, List.length_append, List.length_cons, List.length_append] at hcall
    dsimp only
    omega

end Compile
end SlideContract
