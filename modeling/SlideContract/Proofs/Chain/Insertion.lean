import SlideContract.Proofs.Chain.Cleared
import SlideContract.Proofs.Scan.Reach

/-!
# Defaults that are put in

A default that is put between the calls of a chain leaves no trace: the defaults before it are cut
out first, as they would be without it, and it is the next one that is found. Its argument list may
hold anything whose parenthesis closes, strings, comments and further calls among it, and the same
goes for what stands behind it.

* `callLength?_defaultCall`: a default with a list that closes is a call;
* `withoutDefaults_insert`: a default that is put in is cut out.
-/

namespace SlideContract.Chain
open Scan Text

variable {text front more args : List Char} {calls : List Call}

/-- The call of a default with an argument list. -/
def defaultCall (args : List Char) : List Char := '.' :: (defaultName ++ '(' :: (args ++ [')']))

/-- A default with an argument list that closes is a call, whatever stands behind it. -/
lemma callLength?_defaultCall (h : Enclosed args) (more : List Char) :
    callLength? [defaultName] (defaultCall args ++ more) = some (defaultCall args).length := by
  have hwhole : defaultCall args ++ more
      = '.' :: ([] ++ (defaultName ++ ([] ++ '(' :: (args ++ ')' :: more)))) := by
    simp [defaultCall]
  rw [hwhole, callLength?_default blanks_nil blanks_nil h, Option.some.injEq]
  simp only [defaultCall, List.length_cons, List.length_append, List.length_nil]
  omega

lemma SpellsRest.getLast?_ne (h : SpellsRest Nested text calls) : text.getLast? ≠ some '/' := by
  induction h with
  | nil => simp
  | @blank c text calls hc _ ih =>
    rw [List.getLast?_cons]
    cases hlast : text.getLast? with
    | none =>
      rintro heq
      rw [Option.getD_none, Option.some.injEq] at heq
      rw [heq] at hc
      exact absurd hc (by decide)
    | some d => rwa [hlast] at ih
  | @part part text call calls hpart _ ih =>
    obtain ⟨-, hends⟩ := hpart.nested
    rw [List.getLast?_cons, List.getLast?_append]
    cases hlast : text.getLast? with
    | some d => rwa [hlast] at ih
    | none =>
      rw [Option.none_or]
      cases hpartLast : part.getLast? with
      | none => simp
      | some d => rwa [hpartLast] at hends

lemma Spells.getLast?_ne (h : Spells Nested text calls) : text.getLast? ≠ some '/' := by
  cases h with
  | @chain part text call calls hpart hrest =>
    obtain ⟨-, hends⟩ := hpart.nested
    rw [List.getLast?_append]
    have hrestEnds := hrest.getLast?_ne
    cases hlast : text.getLast? with
    | some d => rwa [hlast] at hrestEnds
    | none => exact hends

/-- A default behind a text that ends outside of brackets and has none of its own is the first. -/
lemma withoutDefaults_defaultCall (h : Plain {} front) (hpass : Passes front)
    (hargs : Enclosed args) (more : List Char) :
    Chain.withoutDefaults (front ++ (defaultCall args ++ more))
      = Chain.withoutDefaults (front ++ more) := by
  have hwhole : ∀ behind, front ++ (defaultCall args ++ behind)
      = (front ++ ['.']) ++ (defaultName ++ '(' :: (args ++ [')']) ++ behind) := by
    intro behind
    simp [defaultCall]
  have hfound : callFrom [defaultName] {} (front ++ (defaultCall args ++ more))
      = some (front.length, (defaultCall args).length) := by
    rw [hpass _ (show Quits (defaultCall args ++ more) from quits_dot _)]
    have hfirst : callFrom [defaultName] {} (defaultCall args ++ more)
        = some (0, (defaultCall args).length) := by
      have hlength := callLength?_defaultCall hargs more
      rw [defaultCall, List.cons_append] at hlength ⊢
      rw [callFrom, if_pos ⟨rfl, rfl⟩, hlength]
    rw [hfirst, later_some, Nat.add_zero]
  -- no comment begins before the call, or at its dot, so that the scan reaches it
  have hdot : Plain (State.run {} front) ['.'] :=
    ⟨fun _ => commentLength_eq_zero_iff.2 fun hslash => absurd hslash.1 (by decide), trivial⟩
  apply withoutDefaults_of_firstCall?
  rw [hwhole] at hfound ⊢
  refine firstCall?_append (plain_append h hdot ⟨by simp, by simp⟩) ?_ hfound (by simp)
  intro hlast
  rw [List.getLast?_concat] at hlast
  exact absurd hlast (by decide)

/-- A default that is put between the calls of a chain is cut out, with what it holds. -/
theorem withoutDefaults_insert (h : Spells Nested front calls) (hargs : Enclosed args)
    (hmore : Quits more) :
    Chain.withoutDefaults (front ++ (defaultCall args ++ more))
      = Chain.withoutDefaults (front ++ more) := by
  induction hlength : front.length using Nat.strong_induction_on generalizing front calls with
  | _ n ih =>
    -- the induction is on the front, which every cut makes shorter and leaves spelled
    have hplain := h.nested.balanced.plain
    rcases h.cut with ⟨-, hpass⟩ | ⟨before, middle, behind, calls', rfl, hfirst, hspells, -⟩
    · exact withoutDefaults_defaultCall hplain hpass hargs more
    · have hpos := List.length_pos_iff.2 hfirst.nonempty
      -- the first default of the front is cut out of both texts
      have hcut : ∀ more, Quits more →
          Chain.withoutDefaults ((before ++ (middle ++ behind)) ++ more)
            = Chain.withoutDefaults ((before ++ behind) ++ more) := by
        intro more hmore
        have hfirst := firstCall?_append hplain (fun hlast => absurd hlast h.getLast?_ne)
          (hfirst.found more hmore) (by simp only [List.length_append]; omega)
        rw [List.append_assoc, List.append_assoc] at hfirst ⊢
        rw [withoutDefaults_of_firstCall? hfirst, List.append_assoc]
      rw [hcut _ hmore, hcut _ (show Quits (defaultCall args ++ more) from quits_dot _)]
      refine ih _ ?_ hspells rfl
      rw [← hlength]
      simp only [List.length_append]
      omega

end SlideContract.Chain
