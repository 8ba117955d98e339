import SlideContract.Chain.Removal
import SlideContract.Declaration.Search
import SlideContract.Proofs.Chain.Literal
import SlideContract.Proofs.Text.Name

/-!
# Tame texts

A text is tame if nothing in its code looks like the beginning of something else: no declaration
opens in it, no default is set, and no semicolon ends it. What is a tame part is so wherever the
part stands, provided that no name goes on behind it.

* `Tame.append`, `Tame.bracket`, `Tame.dot`: how tame texts are put together;
* `withoutDefaults_of_tame`: there is nothing to be cut out of a tame text.
-/

namespace SlideContract
open Scan Text

/-- Nothing that matters opens at the beginning of the text. -/
structure Quiet (text : List Char) : Prop where
  semicolon : text.head? ≠ some ';'
  noDefault : text.head? = some '.' → Chain.callOpening? ["default".toList] text = none
  noConst : Declaration.afterKeyword? "const" text = none

/-- The text does not go on with a name, a blank or a comment. -/
def Stopper (text : List Char) : Prop :=
  ∀ c ∈ text.head?, isNameChar c = false ∧ isBlank c = false ∧ c ≠ '/' ∧ c ≠ '*'

lemma stopper_nil : Stopper [] := fun _ h => absurd h (by simp)

lemma stopper_of_isSeparator {c : Char} (h : isSeparator c = true)
    (hc : isBlank c = false ∧ c ≠ '/' ∧ c ≠ '*') (text : List Char) : Stopper (c :: text) := by
  intro d hd
  rw [← Option.some.inj (show some c = some d from hd)]
  exact ⟨isNameChar_of_isSeparator h, hc⟩

lemma Stopper.follows {text : List Char} (h : Stopper text) : Follows text := by
  refine ⟨fun hhead => ?_, fun hhead => ?_⟩
  · exact (h '/' hhead).2.2.1 rfl
  · exact (h '*' hhead).2.2.2 rfl

lemma Stopper.append {text more : List Char} (h : Stopper text) (hmore : Stopper more) :
    Stopper (text ++ more) := by
  cases text with
  | nil => exact hmore
  | cons c rest => exact h

/-- A character that opens nothing by itself. -/
def Idle (c : Char) : Prop := c ≠ ';' ∧ c ≠ '.' ∧ c ≠ 'c'

lemma quiet_of_idle {c : Char} (h : Idle c) (rest : List Char) : Quiet (c :: rest) := by
  obtain ⟨hsemicolon, hdot, hc⟩ := h
  refine ⟨by simpa using hsemicolon, fun hhead => absurd (by simpa using hhead) hdot, ?_⟩
  have hconst : after? "const".toList (c :: rest) = none := by
    show (if 'c' = c then _ else none) = none
    rw [if_neg (Ne.symm hc)]
  unfold Declaration.afterKeyword?
  rw [hconst]
  rfl

/-- A keyword that a name ends with is not followed by a blank. -/
lemma afterKeyword?_name {text more : List Char} (h : ∀ c ∈ text, isNameChar c = true)
    (hmore : Stopper more) : Declaration.afterKeyword? "const" (text ++ more) = none := by
  unfold Declaration.afterKeyword?
  cases hafter : after? "const".toList (text ++ more) with
  | none => rfl
  | some rest =>
    have hsplit := after?_eq_some_iff.1 hafter
    have hmore' : more.head?.any isBlank = false := by
      rw [Option.any_eq_false]
      exact fun c hc => by rw [(hmore c hc).2.1]
    -- the keyword lies in the name, so behind it stands a name character or what stops the name
    have hblank : rest.head?.any isBlank = false := by
      rcases List.append_eq_append_iff.1 hsplit with ⟨middle, hkeyword, rfl⟩ | ⟨middle, rfl, rfl⟩
      · cases middle with
        | nil => exact hmore'
        | cons c middle =>
          have hword : ∀ d ∈ "const".toList, isNameChar d = true :=
            IsIdentifier.isNameChar (isIdentifier_of_letters (by decide))
          have hc := hword c (by rw [hkeyword]; simp)
          rw [(hmore c rfl).1] at hc
          exact absurd hc (by decide)
      · cases middle with
        | nil => exact hmore'
        | cons c middle =>
          show isBlank c = false
          exact isBlank_of_isNameChar (h c (by simp))
    show (if rest.head?.any isBlank = true then _ else none) = none
    rw [hblank]
    rfl

/-- A balanced text whose code stays quiet, whatever stands behind it but a name or a blank. -/
structure Tame (text : List Char) : Prop where
  balanced : Balanced text
  quiet : ∀ before behind more, text = before ++ behind → behind ≠ [] →
    (State.run {} before).quote = none → Stopper more → Quiet (behind ++ more)

namespace Tame

variable {text more : List Char}

lemma nil : Tame [] where
  balanced := .nil
  quiet before behind _ h hne := by
    rw [List.nil_eq_append_iff] at h
    exact absurd h.2 hne

lemma append (h : Tame text) (hmore : Tame more) (hstopper : Stopper more) :
    Tame (text ++ more) where
  balanced := h.balanced.append hmore.balanced hstopper.follows
  quiet before behind rest heq hne hcode hrest := by
    rcases List.append_eq_append_iff.1 heq with ⟨middle, rfl, rfl⟩ | ⟨middle, rfl, rfl⟩
    · rw [State.run_append, h.balanced.final] at hcode
      exact hmore.quiet middle behind rest rfl hne hcode hrest
    · rw [List.append_assoc]
      by_cases hmiddle : middle = []
      · rw [hmiddle, List.nil_append] at hne ⊢
        exact hmore.quiet [] more rest rfl hne rfl hrest
      · exact h.quiet before middle (more ++ rest) rfl hmiddle hcode (hstopper.append hrest)

/-- A text in whose code only idle characters stand. -/
lemma of_idle (hbalanced : Balanced text)
    (h : ∀ before c behind, text = before ++ c :: behind → (State.run {} before).quote = none →
      Idle c) : Tame text where
  balanced := hbalanced
  quiet before behind rest heq hne hcode _ := by
    cases behind with
    | nil => exact absurd rfl hne
    | cons c behind => exact quiet_of_idle (h before c behind heq hcode) _

/-- An idle character in front. -/
lemma cons {c : Char} (hidle : Idle c) (hadvance : State.advance {} c = {}) (hslash : c ≠ '/')
    (h : Tame text) : Tame (c :: text) where
  balanced := .cons hadvance hslash h.balanced
  quiet before behind rest heq hne hcode hrest := by
    cases before with
    | nil =>
      rw [List.nil_append] at heq
      rw [← heq]
      exact quiet_of_idle hidle _
    | cons d before =>
      obtain ⟨rfl, rfl⟩ := List.cons.inj heq
      rw [State.run_cons, hadvance] at hcode
      exact h.quiet before behind rest rfl hne hcode hrest

/-- A bracket around a tame text. -/
lemma bracket {opener closer : Char} (h : closer? opener = some closer) (htext : Tame text) :
    Tame (opener :: (text ++ [closer])) where
  balanced := .bracket h htext.balanced
  quiet before behind rest heq hne hcode hrest := by
    have hidle : Idle opener ∧ Idle closer ∧ Stopper (closer :: rest) := by
      have hchars : Idle opener ∧ Idle closer ∧ isSeparator closer = true ∧
          (isBlank closer = false ∧ closer ≠ '/' ∧ closer ≠ '*') := by
        unfold closer? at h
        split at h <;>
          first
            | (cases h; unfold Idle; decide)
            | exact absurd h (by simp)
      exact ⟨hchars.1, hchars.2.1, stopper_of_isSeparator hchars.2.2.1 hchars.2.2.2 rest⟩
    obtain ⟨hopener, hcloser, hstopper⟩ := hidle
    cases before with
    | nil =>
      rw [List.nil_append] at heq
      rw [← heq]
      exact quiet_of_idle hopener _
    | cons d before =>
      obtain ⟨hfirst, hwhole⟩ := List.cons.inj heq
      subst hfirst
      -- inside the bracket the scan is where it is in the text alone, one level up
      rw [State.run_cons, ← State.raise_empty (bracket_states h).1, State.run_raise] at hcode
      rcases List.append_eq_append_iff.1 hwhole with ⟨middle, rfl, hlast⟩ | ⟨middle, rfl, rfl⟩
      · have hbehind : behind = [closer] := by
          cases middle with
          | nil => exact hlast.symm
          | cons c middle =>
            have hnil : [] = middle ++ behind := (List.cons.inj hlast).2
            rw [List.nil_eq_append_iff] at hnil
            exact absurd hnil.2 hne
        rw [hbehind]
        exact quiet_of_idle hcloser _
      · rw [List.append_assoc]
        by_cases hmiddle : middle = []
        · rw [hmiddle]
          exact quiet_of_idle hcloser _
        · exact htext.quiet before middle _ rfl hmiddle hcode hstopper

/-- The characters of a name. -/
lemma name (h : ∀ c ∈ text, isNameChar c = true) : Tame text := by
  induction text with
  | nil => exact nil
  | cons c rest ih =>
    have hrest := ih fun d hd => h d (List.mem_cons_of_mem _ hd)
    have hmarks := not_mem_marks_of_isNameChar (h c List.mem_cons_self)
    have hadvance := advance_of_not_mem hmarks
    have hslash : c ≠ '/' := ne_of_not_mem_marks hmarks (by decide)
    have hsemicolon : c ≠ ';' := ne_of_not_mem_marks hmarks (by decide)
    have hdot : c ≠ '.' := ne_of_not_mem_marks hmarks (by decide)
    refine ⟨.cons hadvance hslash hrest.balanced, ?_⟩
    intro before behind more heq hne hcode hmore
    -- at the first character the whole name lies ahead, further on a name again
    cases before with
    | nil =>
      rw [List.nil_append] at heq
      rw [← heq]
      refine ⟨by simpa using hsemicolon, fun hhead => absurd (by simpa using hhead) hdot, ?_⟩
      exact afterKeyword?_name h hmore
    | cons d before =>
      obtain ⟨hfirst, hwhole⟩ := List.cons.inj heq
      rw [State.run_cons, ← hfirst, hadvance] at hcode
      exact hrest.quiet before behind more hwhole hne hcode hmore

/-- Blanks in front. -/
lemma blanks {blanks : List Char} (hblanks : ∀ c ∈ blanks, isBlank c = true) (h : Tame text) :
    Tame (blanks ++ text) := by
  induction blanks with
  | nil => exact h
  | cons c rest ih =>
    have hc := hblanks c List.mem_cons_self
    have hmarks := not_mem_marks_of_isBlank hc
    have hletter : c ≠ 'c' := by
      rintro rfl
      exact absurd hc (by decide)
    exact .cons ⟨ne_of_not_mem_marks hmarks (by decide), ne_of_not_mem_marks hmarks (by decide),
      hletter⟩ (advance_of_not_mem hmarks) (ne_of_not_mem_marks hmarks (by decide))
      (ih fun d hd => hblanks d (List.mem_cons_of_mem _ hd))

/-- Tame texts in a list. -/
lemma listed {pad : List Char} (hpad : ∀ c ∈ pad, isBlank c = true) {parts : List (List Char)}
    (h : ∀ part ∈ parts, Tame part) : Tame (List.intercalate (',' :: pad) parts) := by
  induction parts with
  | nil => exact nil
  | cons part rest ih =>
    cases rest with
    | nil =>
      have hjoin : List.intercalate (',' :: pad) [part] = part := by simp
      rw [hjoin]
      exact h part List.mem_cons_self
    | cons next rest =>
      rw [List.intercalate_cons_cons, List.append_assoc, List.cons_append]
      refine (h part List.mem_cons_self).append (.cons (by unfold Idle; decide) rfl (by decide)
        (.blanks hpad (ih fun p hp => h p (List.mem_cons_of_mem _ hp)))) ?_
      exact stopper_of_isSeparator (by decide) (by decide) _

/-- A dot in front of what is not the name of a default. -/
lemma dot {c : Char} {rest : List Char} (hc : c ≠ 'd') (hblank : isBlank c = false)
    (h : Tame (c :: rest)) : Tame ('.' :: c :: rest) where
  balanced := .cons rfl (by decide) h.balanced
  quiet before behind more heq hne hcode hmore := by
    cases before with
    | nil =>
      rw [List.nil_append] at heq
      rw [← heq]
      refine ⟨by simp, fun _ => ?_, by rfl⟩
      have hafter : after? "default".toList (c :: (rest ++ more)) = none := by
        show (if 'd' = c then _ else none) = none
        rw [if_neg (Ne.symm hc)]
      have hblanks : (c :: (rest ++ more)).takeWhile isBlank = [] := by
        rw [List.takeWhile_cons, hblank]
        rfl
      unfold Chain.callOpening?
      simp only [List.cons_append, List.drop_one, List.tail_cons, hblanks, List.length_nil,
        Nat.zero_add, List.range_one, List.reverse_singleton, List.findSome?_cons, List.drop_zero,
        hafter, Option.bind_eq_bind, Option.bind_none, List.findSome?_nil]
    | cons d before =>
      obtain ⟨hfirst, hwhole⟩ := List.cons.inj heq
      rw [State.run_cons, ← hfirst] at hcode
      exact h.quiet before behind more hwhole hne hcode hmore

/-- What is no code cannot matter. -/
lemma of_inside (hbalanced : Balanced text)
    (h : ∀ index, ∀ v ∈ trace {} index text, v.outside = false) : Tame text := by
  apply of_idle hbalanced
  intro before c behind heq hcode
  have hvisit := h 0 _ (mem_trace.2 ⟨before, c, behind, heq, rfl⟩)
  have hquote : isQuote c = true := by
    have houtside : ((State.run {} before).quote.isNone && !isQuote c) = false := hvisit
    rw [hcode] at houtside
    simpa using houtside
  rcases Chain.isQuote_iff.1 hquote with rfl | rfl | rfl <;> (unfold Idle; decide)

end Tame

/-- No default is cut out of a tame text. -/
theorem withoutDefaults_of_tame {text : List Char} (h : Tame text) :
    Chain.withoutDefaults text = text := by
  have hnone : Chain.firstCall? ["default".toList] text = none := by
    unfold Chain.firstCall? walk
    rw [visits_of_plain h.balanced.plain, List.findSome?_eq_none_iff]
    intro v hv
    obtain ⟨before, c, behind, rfl, rfl⟩ := mem_trace.1 hv
    split
    · rename_i hdot
      rw [Bool.and_eq_true, beq_iff_eq] at hdot
      obtain ⟨hcode, hchar⟩ := hdot
      -- a visited dot in code stands where a tame text holds no such call
      have hquote : (State.run {} before).quote = none := by
        have houtside : ((State.run {} before).quote.isNone && !isQuote c) = true := hcode
        rw [Bool.and_eq_true, Option.isNone_iff_eq_none] at houtside
        exact houtside.1
      have hquiet := h.quiet before (c :: behind) [] rfl (by simp) hquote stopper_nil
      have hdot : c = '.' := hchar
      have hopening := hquiet.noDefault (by rw [hdot]; rfl)
      rw [List.append_nil] at hopening
      show Option.map _ (Chain.callLength? _ ((before ++ c :: behind).drop (0 + before.length))) = _
      rw [Nat.zero_add, List.drop_left]
      unfold Chain.callLength?
      rw [hopening]
      rfl
    · rfl
  unfold Chain.withoutDefaults Chain.removeCalls
  split
  · rfl
  · rename_i heq
    rw [hnone] at heq
    exact absurd heq (by simp)

end SlideContract
