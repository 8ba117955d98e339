import SlideContract.Proofs.Scan.Reach

/-!
# Places in code

At a character in code a walk comes apart into the walk before it and that of what stands behind
it, which is the walk of the latter alone, moved and raised. A text ends in code if a semicolon
behind it would be code: what a walk does with such a text does not depend on what stands behind it.

* `visits_eq_append_cons`: the parts of a walk before and behind a visit are walks;
* `walk_at_code`, `codeOffsets_at_code`: a walk at a character in code;
* `EndsInCode.walk_append`: a walk through a text that ends in code and on behind it.
-/

namespace SlideContract.Scan

variable {s : State} {text more : List Char} {index : ℕ} {v : Visit}

/-! ## Parts of a walk -/

/-- What a walk visits before and behind a visit are walks through the text before and behind its
character. -/
lemma visits_eq_append_cons {front rest : List Visit}
    (h : visits s index text = front ++ v :: rest) :
    ∃ before c behind, text = before ++ c :: behind ∧ front = visits s index before ∧
      v = visit (s.run (shed s before)) (index + before.length) c ∧
      rest = visits v.after (v.index + 1) behind := by
  induction s, text using walk_induction generalizing index front with
  | nil s =>
    rw [visits] at h
    exact absurd h (by simp)
  | visited s c text hc ih =>
    rw [visits_cons hc] at h
    cases front with
    | nil =>
      obtain ⟨rfl, rfl⟩ := List.cons.inj h
      exact ⟨[], c, text, rfl, by rw [visits], by simp, rfl⟩
    | cons w front =>
      obtain ⟨rfl, hrest⟩ := List.cons.inj h
      obtain ⟨before, d, behind, rfl, rfl, rfl, rfl⟩ := ih hrest
      -- no comment opens at `c` in the part that ends before the visit either
      have hbefore := commentLength_front_cons hc
      refine ⟨c :: before, d, behind, rfl, (visits_cons hbefore index).symm, ?_, rfl⟩
      rw [shed_cons hbefore, State.run_cons, List.length_cons, Nat.add_assoc, Nat.add_comm 1]
  | skipped s comment text hcode hne hcomment ih =>
    rw [visits_comment hcode hne hcomment] at h
    obtain ⟨before, d, behind, rfl, rfl, rfl, rfl⟩ := ih h
    have hbefore := commentLength_front hcomment
    refine ⟨comment ++ before, d, behind, by rw [List.append_assoc],
      (visits_comment hcode hne hbefore index).symm, ?_, rfl⟩
    rw [shed_comment hcode hne hbefore, List.length_append, Nat.add_assoc]

/-- A visit of code leads on in code. -/
lemma quote_of_outside (c : Char) (h : (visit s index c).outside = true) :
    s.quote = none ∧ isQuote c = false ∧ (s.advance c).quote = none := by
  have hboth : (s.quote.isNone && !isQuote c) = true := h
  rw [Bool.and_eq_true, Option.isNone_iff_eq_none, Bool.not_eq_true'] at hboth
  obtain ⟨hcode, hquote⟩ := hboth
  refine ⟨hcode, hquote, ?_⟩
  unfold State.advance State.advanceInCode
  rw [hcode, hquote]
  simp only [Bool.false_eq_true, if_false]
  split_ifs <;> first | rfl | exact hcode

/-- Behind a character in code the scan stands in code. -/
lemma isCode_of_mem_walk (hv : v ∈ walk text) (hout : v.outside = true) : v.after.IsCode := by
  obtain ⟨front, rest, hwalk⟩ := List.append_of_mem hv
  obtain ⟨before, c, -, -, -, rfl, -⟩ := visits_eq_append_cons hwalk
  have hafter := (quote_of_outside c hout).2.2
  have hrun : (State.run {} (shed {} before)).advance c = State.run {} (shed {} before ++ [c]) := by
    rw [State.run_append]
    rfl
  show ((State.run {} (shed {} before)).advance c).IsCode
  rw [hrun] at hafter ⊢
  exact State.isCode_run hafter

/-- A visit as many characters later. -/
def Visit.later (offset : ℕ) (v : Visit) : Visit := { v with index := offset + v.index }

/-- Where a walk begins moves its visits and nothing else. -/
lemma visits_later (s : State) (offset index : ℕ) (text : List Char) :
    visits s (offset + index) text = (visits s index text).map (·.later offset) := by
  induction s, text using walk_induction generalizing index with
  | nil s => rw [visits, visits, List.map_nil]
  | visited s c text hc ih =>
    rw [visits_cons hc, visits_cons hc, List.map_cons, Nat.add_assoc, ih]
    rfl
  | skipped s comment text hcode hne hcomment ih =>
    rw [visits_comment hcode hne hcomment, visits_comment hcode hne hcomment, Nat.add_assoc, ih]

lemma trace_later (s : State) (offset index : ℕ) (text : List Char) :
    trace s (offset + index) text = (trace s index text).map (·.later offset) := by
  induction text generalizing s index with
  | nil => rfl
  | cons c rest ih =>
    rw [trace, trace, List.map_cons, Nat.add_assoc, ih]
    rfl

/-- From a place in code on a walk visits what the walk of the rest alone does. -/
lemma visits_of_isCode (h : s.IsCode) (index : ℕ) (text : List Char) :
    visits s index text = ((walk text).map (·.raise s)).map (·.later index) := by
  have hraise := visits_raise s {} 0 text
  rw [State.raise_empty h] at hraise
  rw [← Nat.add_zero index, visits_later, hraise]
  rfl

/-- A character that leaves the scan as it is is code. -/
lemma IsStill.outside {c : Char} (h : IsStill c) (index : ℕ) :
    (visit {} index c).outside = true := by
  have hquote : isQuote c = false := by
    rw [Bool.eq_false_iff]
    intro hquote
    have hadvance := congrArg State.quote h.1
    simp [State.advance, State.advanceInCode, hquote] at hadvance
  show (true && !isQuote c) = true
  rw [hquote]
  rfl

/-- At a character in code a walk comes apart into the walks before and behind it. -/
lemma walk_at_code (hv : v ∈ walk text) (hout : v.outside = true) :
    ∃ before behind, text = before ++ v.char :: behind ∧ v.index = before.length ∧
      walk text = walk before ++
        v :: ((walk behind).map (·.raise v.after)).map (·.later (before.length + 1)) := by
  have hcode := isCode_of_mem_walk hv hout
  obtain ⟨front, rest, hwalk⟩ := List.append_of_mem hv
  obtain ⟨before, c, behind, rfl, rfl, rfl, rfl⟩ := visits_eq_append_cons hwalk
  refine ⟨before, behind, rfl, Nat.zero_add _, ?_⟩
  have hrest := visits_of_isCode hcode (0 + before.length + 1) behind
  rw [hwalk]
  rw [Nat.zero_add] at hrest ⊢
  exact congrArg (walk before ++ visit (State.run {} (shed {} before)) _ c :: ·) hrest

/-- The code of a text at a character in code. -/
lemma codeOffsets_at_code (hv : v ∈ walk text) (hout : v.outside = true) :
    ∃ before behind, text = before ++ v.char :: behind ∧ v.index = before.length ∧
      codeOffsets text = codeOffsets before ++
        before.length :: (codeOffsets behind).map (before.length + 1 + ·) := by
  obtain ⟨before, behind, hsplit, hindex, hwalk⟩ := walk_at_code hv hout
  refine ⟨before, behind, hsplit, hindex, ?_⟩
  unfold codeOffsets
  rw [hwalk, List.filter_append, List.map_append, List.filter_cons, if_pos hout, List.map_cons,
    hindex, List.filter_map, List.filter_map, List.map_map, List.map_map, List.map_map]
  rfl

/-- A semicolon behind the text is code: the scan of the text ends outside strings and comments. -/
def EndsInCode (text : List Char) : Prop := text.length ∈ codeOffsets (text ++ [';'])

instance : DecidablePred EndsInCode := fun text =>
  inferInstanceAs (Decidable (text.length ∈ codeOffsets (text ++ [';'])))

/-- The scan of a text ends in code exactly if no comment runs on behind the text and no string is
open. -/
lemma endsInCode_iff :
    EndsInCode text ↔ Ended {} text ∧ (State.run {} (shed {} text)).quote = none := by
  have hjoins : Joins (shed {} text) [';'] := Follows.joins ⟨by simp, by simp⟩ _
  -- once its comments have ended, a semicolon behind the text is visited in the state that the
  -- text ends in
  have hwalk : Ended {} text → walk (text ++ [';'])
      = walk text ++ [visit (State.run {} (shed {} text)) (0 + text.length) ';'] := by
    intro hended
    unfold walk
    rw [hended 0 _ hjoins, visits_cons (fun _ => commentLength_eq_zero_iff.2 fun hc =>
      absurd hc.1 (by decide)), visits]
  constructor
  · intro h
    obtain ⟨v, hv, hindex⟩ := List.mem_map.1 h
    obtain ⟨hmem, hout⟩ := List.mem_filter.1 hv
    have hended := ended_of_visit_behind hmem (by rw [hindex, Nat.zero_add])
    refine ⟨hended, ?_⟩
    rw [hwalk hended] at hmem
    rcases List.mem_append.1 hmem with hmem | hmem
    · have hlt := (index_of_mem_visits hmem).2
      omega
    · obtain rfl := List.mem_singleton.1 hmem
      exact (quote_of_outside ';' hout).1
  · rintro ⟨hended, hcode⟩
    unfold EndsInCode codeOffsets
    rw [hwalk hended, List.filter_append, List.map_append]
    apply List.mem_append_right
    simp [visit, hcode, isQuote]

/-- The walk goes through a text that ends in code, and then on behind it. -/
lemma EndsInCode.walk_append (h : EndsInCode text) (hfollows : Follows more) :
    walk (text ++ more) = walk text ++ visits (State.run {} (shed {} text)) text.length more := by
  have hmore := (endsInCode_iff.1 h).1 0 more (hfollows.joins _)
  rw [Nat.zero_add] at hmore
  exact hmore

/-- The semicolon behind such a text is in code. -/
lemma EndsInCode.walk_semicolon (h : EndsInCode text) (more : List Char) :
    ∃ w rest, walk (text ++ ';' :: more) = walk text ++ w :: rest ∧ w.index = text.length ∧
      w.char = ';' ∧ w.outside = true := by
  have hwalk := h.walk_append (show Follows (';' :: more) from ⟨by simp, by simp⟩)
  rw [visits_cons fun _ => commentLength_eq_zero_iff.2 fun hc => absurd hc.1 (by decide)] at hwalk
  refine ⟨_, _, hwalk, rfl, rfl, ?_⟩
  simp [visit, (endsInCode_iff.1 h).2, isQuote]

/-- The code of a text, of the semicolon behind it, and of what comes behind that. -/
lemma EndsInCode.codeOffsets_semicolon (h : EndsInCode text) (more : List Char) :
    codeOffsets (text ++ ';' :: more)
      = codeOffsets text ++ text.length :: (codeOffsets more).map (text.length + 1 + ·) := by
  obtain ⟨w, rest, hwalk, hindex, -, hout⟩ := h.walk_semicolon more
  have hw : w ∈ walk (text ++ ';' :: more) := by
    rw [hwalk]
    exact List.mem_append_right _ List.mem_cons_self
  obtain ⟨before, behind, hsplit, hbefore, hcode⟩ := codeOffsets_at_code hw hout
  obtain ⟨rfl, hmore⟩ := List.append_inj hsplit (hindex.symm.trans hbefore)
  obtain rfl := (List.cons.inj hmore).2
  exact hcode

/-- The code of a text behind a character that leaves the scan as it is. -/
lemma IsStill.codeOffsets {c : Char} (h : IsStill c) (text : List Char) :
    codeOffsets (c :: text) = 0 :: (codeOffsets text).map (1 + ·) := by
  have hv : visit {} 0 c ∈ walk (c :: text) := by
    unfold walk
    rw [visits_cons fun _ => h.commentLength _]
    exact List.mem_cons_self
  obtain ⟨before, behind, hsplit, hindex, hcode⟩ := codeOffsets_at_code hv (h.outside 0)
  have hnil : before = [] := List.eq_nil_of_length_eq_zero hindex.symm
  subst hnil
  obtain rfl := (List.cons.inj hsplit).2
  rw [hcode]
  unfold Scan.codeOffsets
  rw [show walk [] = [] by unfold walk; rw [visits]]
  rfl

end SlideContract.Scan
