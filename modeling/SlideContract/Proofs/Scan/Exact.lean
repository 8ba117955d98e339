import SlideContract.Proofs.Scan.Matched
import SlideContract.Proofs.Scan.Semicolon
import SlideContract.Proofs.Scan.Uncommented

/-!
# Spans alone

The span of a declaration is settled by the span alone: where it closes and which calls belong to it
depends on no character behind it, so that it is found again alone, and before a semicolon in any
other text.

This holds as long as the span begins with the namespace and its dot, which are looked for before
the span is. A namespace with a parenthesis of its own can close a declaration before its dot: of
`z().` the span is `z()` where the namespace is `z()`.

* `exists_constructor`, `exists_trailing`: a constructor and the calls behind it;
* `exists_of_span?`: what a span is made of;
* `span?_exact`: a span is found again alone and in any other text.
-/

namespace SlideContract.Scan
open Text Chain

variable {s : State} {text more namespaceName span : List Char} {index : ℕ} {v : Visit}

/-! ## Final states -/

lemma finalState_cons (s : State) (v : Visit) (rest : List Visit) :
    finalState s (v :: rest) = finalState v.after rest := by
  unfold finalState
  rw [List.getLast?_cons]
  cases rest.getLast? <;> rfl

lemma finalState_append (s : State) (front rest : List Visit) :
    finalState s (front ++ rest) = finalState (finalState s front) rest := by
  induction front generalizing s with
  | nil => rfl
  | cons v front ih => rw [List.cons_append, finalState_cons, finalState_cons, ih]

/-- The state behind a walk is the state behind the characters that are in no comments. -/
lemma finalState_visits (s : State) (index : ℕ) (text : List Char) :
    finalState s (visits s index text) = s.run (shed s text) := by
  induction s, text using walk_induction generalizing index with
  | nil s => rw [visits, shed_nil]; rfl
  | visited s c text hc ih =>
    rw [visits_cons hc, finalState_cons, shed_cons hc, State.run_cons]
    exact ih _
  | skipped s comment text hcode hne hcomment ih =>
    rw [visits_comment hcode hne hcomment, shed_comment hcode hne hcomment, ih]

/-! ## Trailing calls -/

/-- A text that is one region ends its comments and is balanced without them. -/
lemma commented_region {opener closer : Char} (hopener : closer? opener = some closer)
    (h : regionLength? (opener :: text) = some (opener :: text).length) :
    Commented (opener :: text) := by
  obtain ⟨front, v, rest, hwalk, hlength, hout, -, hlevel, hbalanced⟩ :=
    exists_end_of_regionLength? hopener h
  generalize opener :: text = whole at hwalk hlength
  have hlast : v.index + 1 = 0 + whole.length := by rw [hlength, Nat.zero_add]
  have hv : v ∈ walk whole := by
    rw [hwalk]
    exact List.mem_append_right _ List.mem_cons_self
  -- the closer is the last character, so that nothing is visited behind it
  have hrest : rest = [] := by
    obtain ⟨before, c, behind, rfl, -, rfl, rfl⟩ := visits_eq_append_cons hwalk
    have hindex : (before ++ c :: behind).length = 0 + before.length + 1 := hlength
    rw [List.length_append, List.length_cons] at hindex
    rw [List.eq_nil_of_length_eq_zero (show behind.length = 0 by omega), visits]
  rw [hrest] at hwalk
  have hfinal : State.run {} (shed {} whole) = v.after := by
    rw [← finalState_visits {} 0 whole, show visits {} 0 whole = _ from hwalk, finalState_append]
    rfl
  have hempty : v.after = {} := State.eq_empty (isCode_of_mem_walk hv hout) hlevel
  refine ⟨(ended_of_mem_visits hv hlast).1, plain_shed {} whole, hfinal.trans hempty, ?_⟩
  intro index w hw
  obtain ⟨u, hu, hseen⟩ := exists_seen hw 0
  rw [show visits {} 0 whole = _ from hwalk] at hu
  have hafter : u.after = w.after := congrArg (·.2.2) hseen
  rw [← hafter]
  exact hbalanced u hu

/-- No comment comes about before the dot of a call. -/
lemma follows_dot {blanks : List Char} (h : Blanks blanks) (text : List Char) :
    Follows (blanks ++ '.' :: text) := by
  cases blanks with
  | nil => exact ⟨by simp, by simp⟩
  | cons c blanks =>
    have hc := not_mem_marks_of_isBlank (h c List.mem_cons_self)
    exact ⟨by simpa using ne_of_not_mem_marks hc (by decide),
      by simpa using ne_of_not_mem_marks hc (by decide)⟩

/-- A trailing call that is the same whatever stands behind it. -/
structure IsTrailingCall (call : List Char) : Prop where
  commented : Commented call
  follows : Follows call
  last : call.getLast? = some ')'
  length : ∀ more, trailingCall? (call ++ more) = some call.length

/-- A trailing call that closes is such a call. -/
lemma exists_trailingCall {n : ℕ} (h : trailingCall? text = some n) :
    ∃ call behind, text = call ++ behind ∧ n = call.length ∧ IsTrailingCall call := by
  obtain ⟨blanks, hblanks, hsplit⟩ := exists_blanks text
  unfold trailingCall? at h
  simp only [drop_takeWhile_isBlank] at h
  split at h
  · rename_i hdot
    obtain ⟨rest, hrest⟩ := List.head?_eq_some_iff.1 hdot
    obtain ⟨m, hm, hn⟩ := Option.map_eq_some_iff.1 h
    rw [hrest] at hm hsplit
    obtain ⟨front, inner, behind, rfl, hfront, hlength, hregion, hmore⟩ :=
      callLength?_through isIdentifier_of_trailingMethods hm
    have htake : ∀ args, (blanks ++ '.' :: args).takeWhile isBlank = blanks := fun args =>
      takeWhile_blanks hblanks (starts_cons (by decide) args)
    set call := blanks ++ '.' :: (front ++ '(' :: (inner ++ [')'])) with hcall
    have hwhole : ∀ more,
        call ++ more = blanks ++ '.' :: (front ++ '(' :: (inner ++ ')' :: more)) := by
      simp [hcall]
    have hcount : blanks.length + m = call.length := by
      simp only [hcall, hlength, List.length_append, List.length_cons, List.length_nil]
      omega
    -- up to the parenthesis the call holds no mark, so its region is all that the scan has to
    -- cross
    have hstill : ∀ c ∈ blanks ++ '.' :: front, IsStill c := by
      intro c hc
      rcases List.mem_append.1 hc with hc | hc
      · exact isStill_of_isBlank (hblanks c hc)
      rcases List.mem_cons.1 hc with rfl | hc
      · exact ⟨rfl, by decide⟩
      · exact hfront c hc
    refine ⟨call, behind, by rw [hsplit, hwhole], ?_, ?_⟩
    · rw [← hn, hsplit, htake, hcount]
    · refine ⟨?_, follows_dot hblanks _, ?_, fun more => ?_⟩
      · have hcommented := Commented.still hstill (commented_region rfl (by rw [hregion]; simp))
        rwa [List.append_assoc] at hcommented
      · rw [hcall, List.getLast?_append, List.getLast?_cons, List.getLast?_append,
          List.getLast?_cons, List.getLast?_concat]
        rfl
      · unfold trailingCall?
        simp only [hwhole, htake, List.drop_left, List.head?_cons, if_true, hmore, Option.map_some,
          hcount]
  · exact absurd h (by simp)

/-- Trailing calls that are the same whatever stands behind them, unless another one does. -/
structure IsTrailing (kept : List Char) : Prop where
  commented : Commented kept
  follows : Follows kept
  last : ∀ c ∈ kept.getLast?, c = ')'
  length : ∀ more, trailingCall? more = none → trailingLength (kept ++ more) = kept.length

lemma isTrailing_nil : IsTrailing [] where
  commented := Balanced.nil.commented
  follows := follows_nil
  last := by simp
  length _ hmore := trailingLength_of_none hmore

lemma IsTrailingCall.append {call kept : List Char} (h : IsTrailingCall call)
    (hkept : IsTrailing kept) : IsTrailing (call ++ kept) where
  commented := h.commented.append hkept.commented hkept.follows
  follows := by
    have hlast := h.last
    cases call with
    | nil => exact absurd hlast (by simp)
    | cons c call => exact h.follows
  last c hc := by
    rw [getLast?_append_of_last h.last hkept.last] at hc
    exact (Option.some.inj hc).symm
  length more hmore := by
    rw [List.append_assoc, trailingLength_of_some (h.length (kept ++ more)), List.drop_left,
      hkept.length more hmore, List.length_append]

/-- A text begins with its trailing calls. -/
lemma exists_trailing (text : List Char) :
    ∃ kept behind, text = kept ++ behind ∧ trailingLength text = kept.length ∧ IsTrailing kept := by
  -- the induction is on the length, since a call is taken as a whole
  induction hlength : text.length using Nat.strong_induction_on generalizing text with
  | _ n ih =>
    cases hcall : trailingCall? text with
    | none => exact ⟨[], text, rfl, trailingLength_of_none hcall, isTrailing_nil⟩
    | some m =>
      obtain ⟨call, rest, rfl, rfl, htrailing⟩ := exists_trailingCall hcall
      have hpos := (length_of_trailingCall? hcall).1
      have hshorter : rest.length < n := by
        rw [← hlength, List.length_append]
        omega
      obtain ⟨kept, behind, rfl, hkeptLength, hkept⟩ := ih _ hshorter rest rfl
      refine ⟨call ++ kept, behind, by rw [List.append_assoc], ?_, htrailing.append hkept⟩
      rw [trailingLength_of_some hcall, List.drop_left, hkeptLength, List.length_append]

/-! ## Constructors -/

/-- A constructor up to the parenthesis that closes it, whatever stands behind that. -/
structure IsConstructor (inner : List Char) (front : List Visit) (v : Visit) : Prop where
  index : v.index = inner.length
  closed : v.outside = true ∧ v.char = ')' ∧ v.after.unbalanced = false ∧
    v.after.outsideCalls = true
  walk : ∀ more, walk (inner ++ ')' :: more) = front ++ v :: visits v.after (v.index + 1) more
  inside : ∀ more, ∀ w ∈ front, spanStep (inner ++ ')' :: more) w = .inside

/-- A declaration that closes begins with a constructor. -/
lemma exists_constructor (h : spanEnd? text = some (v, .closed)) :
    ∃ inner behind front, text = inner ++ ')' :: behind ∧ IsConstructor inner front v := by
  obtain ⟨front, rest, hwalk, hstep, hinside⟩ := (spanEnd?_eq_some_iff (by decide)).1 h
  have hclosed := spanStep_eq_closed_iff.1 hstep
  have hchar := hclosed.2.1
  obtain ⟨inner, behind, rfl, hindex, hmore⟩ :=
    visits_through (show visits {} 0 text = _ from hwalk) (by rw [hchar]; decide)
  rw [hchar] at hmore hinside ⊢
  rw [Nat.zero_add] at hindex
  refine ⟨inner, behind, front, rfl, hindex, hclosed, hmore, fun more w hw => ?_⟩
  -- what a character means in front of the parenthesis does not depend on what stands behind
  have hlt : w.index < inner.length := by
    obtain ⟨before, c, after, hsplit, hfront, rfl, -⟩ := visits_eq_append_cons (hmore more)
    have hbefore : before.length = inner.length := by
      rw [← hindex]
      exact (Nat.zero_add _).symm
    rw [hfront] at hw
    have hlt := (index_of_mem_visits hw).2
    rwa [Nat.zero_add, hbefore] at hlt
  have hstep := hinside w hw
  rwa [spanStep_append_cons (by decide) (by decide) hlt] at hstep ⊢

namespace IsConstructor

variable {inner kept : List Char} {front : List Visit}

lemma spanEnd? (h : IsConstructor inner front v) (more : List Char) :
    spanEnd? (inner ++ ')' :: more) = some (v, .closed) :=
  (spanEnd?_eq_some_iff (by decide)).2
    ⟨front, _, h.walk more, spanStep_eq_closed_iff.2 h.closed, h.inside more⟩

/-- No depth is negative up to the end of a constructor. -/
lemma unbalanced (h : IsConstructor inner front v) :
    ∀ w ∈ front ++ [v], w.after.unbalanced = false := by
  have hsplit : visits {} 0 (inner ++ ')' :: []) = (front ++ [v]) ++ [] := by
    rw [show visits {} 0 (inner ++ ')' :: []) = _ from h.walk [], visits]
    simp
  refine unbalanced_of_outside rfl hsplit fun w hw hout => ?_
  rcases List.mem_append.1 hw with hw | hw
  · -- below the level the declaration would be cut off
    by_contra hdeep
    have hcut : spanStep (inner ++ ')' :: []) w = .cut := by
      unfold spanStep
      rw [Bool.not_eq_false] at hdeep
      simp [hout, hdeep]
    rw [h.inside [] w hw] at hcut
    exact absurd hcut (by decide)
  · rw [List.mem_singleton.1 hw]
    exact h.closed.2.2.1

/-- Behind a constructor the scan is in code. -/
lemma isCode (h : IsConstructor inner front v) : v.after.IsCode := by
  refine @isCode_of_mem_walk (inner ++ ')' :: []) v ?_ h.closed.1
  rw [h.walk []]
  exact List.mem_append_right _ List.mem_cons_self

/-- What a scan sees of a constructor with its trailing calls. -/
lemma walk_trailing (h : IsConstructor inner front v) (hkept : IsTrailing kept) :
    Scan.walk (inner ++ ')' :: kept)
      = front ++ v :: (visits {} (v.index + 1) kept).map (·.raise v.after) := by
  have hvisits := hkept.commented.visits_eq h.isCode follows_nil (v.index + 1)
  rw [List.append_nil, visits, List.append_nil] at hvisits
  rw [h.walk kept, hvisits]

lemma getLast?_trailing (hkept : IsTrailing kept) (inner : List Char) :
    (inner ++ ')' :: kept).getLast? = some ')' := by
  have hinner : (inner ++ [')']).getLast? = some ')' := List.getLast?_concat
  have hlast := getLast?_append_of_last hinner hkept.last
  rwa [List.append_assoc] at hlast

lemma trim_trailing (hkept : IsTrailing kept) (hstarts : Starts (inner ++ ')' :: kept)) :
    trim (inner ++ ')' :: kept) = inner ++ ')' :: kept :=
  trim_of_starts_stops hstarts (stops_of_getLast? (getLast?_trailing hkept inner) (by decide))

lemma drop_behind (h : IsConstructor inner front v) (more : List Char) :
    (inner ++ ')' :: more).drop (v.index + 1) = more := by
  rw [h.index, ← List.drop_drop, List.drop_left, List.drop_one, List.tail_cons]

lemma take_through (h : IsConstructor inner front v) (kept more : List Char) :
    (inner ++ ')' :: (kept ++ more)).take (v.index + 1 + kept.length) = inner ++ ')' :: kept := by
  have hcount : v.index + 1 + kept.length = (inner ++ ')' :: kept).length := by
    rw [h.index, List.length_append, List.length_cons]
    omega
  rw [← List.cons_append, ← List.append_assoc, hcount, List.take_left]

/-- Behind a constructor with its trailing calls the scan stands as behind the constructor. -/
lemma finalState_trailing (h : IsConstructor inner front v) (hkept : IsTrailing kept) :
    finalState {} (Scan.walk (inner ++ ')' :: kept)) = v.after := by
  have hrun : v.after.run (shed v.after kept) = v.after := by
    rw [shed_of_isCode h.isCode]
    exact hkept.commented.balanced.run_eq h.isCode
  rw [h.walk kept, finalState_append, finalState_cons, finalState_visits, hrun]

/-- No depth is negative in a constructor with its trailing calls. -/
lemma unbalanced_trailing (h : IsConstructor inner front v) (hkept : IsTrailing kept) :
    ∀ w ∈ Scan.walk (inner ++ ')' :: kept), w.after.unbalanced = false := by
  intro w hw
  rw [h.walk_trailing hkept] at hw
  rcases List.mem_append.1 hw with hw | hw
  · exact h.unbalanced w (List.mem_append_left _ hw)
  rcases List.mem_cons.1 hw with rfl | hw
  · exact h.closed.2.2.1
  · obtain ⟨u, hu, rfl⟩ := List.mem_map.1 hw
    exact raise_unbalanced h.closed.2.2.1 (hkept.commented.closes hu)

end IsConstructor

/-! ## Spans -/

/-- The text begins with the namespace, blanks and a dot. -/
def OpensWith (namespaceName text : List Char) : Prop :=
  ∃ blanks rest, Blanks blanks ∧ text = namespaceName ++ (blanks ++ '.' :: rest)

lemma opensWith_iff :
    OpensWith namespaceName text ↔ (afterNamespaceDot? namespaceName text).isSome = true := by
  unfold OpensWith afterNamespaceDot?
  constructor
  · rintro ⟨blanks, rest, hblanks, rfl⟩
    have hafter : after? namespaceName (namespaceName ++ (blanks ++ '.' :: rest))
        = some (blanks ++ '.' :: rest) := after?_eq_some_iff.2 rfl
    have hdot : Starts ('.' :: rest) := starts_cons (by decide) rest
    simp only [hafter, Option.bind_eq_bind, Option.bind_some, dropBlanks_append hblanks,
      dropBlanks_of_starts hdot, Option.isSome_some]
  · intro h
    obtain ⟨more, hmore⟩ := Option.isSome_iff_exists.1 h
    obtain ⟨behind, hafter, hdot⟩ := Option.bind_eq_some_iff.1 hmore
    obtain ⟨blanks, hblanks, hsplit⟩ := exists_blanks behind
    split at hdot
    · rename_i rest hrest
      refine ⟨blanks, rest, hblanks, ?_⟩
      rw [← hrest, ← hsplit]
      exact after?_eq_some_iff.1 hafter
    · exact absurd hdot (by simp)

instance : DecidablePred (OpensWith namespaceName) := fun _ =>
  decidable_of_iff _ opensWith_iff.symm

lemma OpensWith.append (h : OpensWith namespaceName text) (more : List Char) :
    OpensWith namespaceName (text ++ more) := by
  obtain ⟨blanks, rest, hblanks, rfl⟩ := h
  exact ⟨blanks, rest ++ more, hblanks, by simp⟩

/-- A parenthesis behind a namespace without one stands behind its dot as well. -/
lemma OpensWith.front {inner behind : List Char}
    (h : OpensWith namespaceName (inner ++ ')' :: behind)) (hname : ')' ∉ namespaceName)
    (more : List Char) : OpensWith namespaceName (inner ++ more) := by
  obtain ⟨blanks, rest, hblanks, hsplit⟩ := h
  have hfront : ')' ∉ namespaceName ++ (blanks ++ ['.']) := by
    intro hmem
    rcases List.mem_append.1 hmem with hmem | hmem
    · exact hname hmem
    rcases List.mem_append.1 hmem with hmem | hmem
    · exact absurd (hblanks ')' hmem) (by decide)
    · exact absurd hmem (by decide)
  have hwhole : inner ++ ')' :: behind = (namespaceName ++ (blanks ++ ['.'])) ++ rest := by
    rw [hsplit]
    simp
  -- the parenthesis stands behind that front, since it does not stand in it
  rcases List.append_eq_append_iff.1 hwhole with ⟨middle, hmiddle, hbehind⟩ | ⟨middle, rfl, -⟩
  · cases middle with
    | nil =>
      rw [List.append_nil] at hmiddle
      exact ⟨blanks, more, hblanks, by rw [← hmiddle]; simp⟩
    | cons c middle =>
      obtain ⟨rfl, -⟩ := List.cons.inj hbehind
      rw [hmiddle] at hfront
      exact absurd (List.mem_append_right _ List.mem_cons_self) hfront
  · exact ⟨blanks, middle ++ more, hblanks, by simp⟩

/-- A span is a constructor with its trailing calls, from the first character that is no blank on.
-/
lemma exists_of_span? (h : span? namespaceName text = some span) :
    ∃ blanks behind inner kept front v, Blanks blanks ∧ text = blanks ++ (span ++ behind) ∧
      Starts span ∧ OpensWith namespaceName (span ++ behind) ∧ span = inner ++ ')' :: kept ∧
      IsConstructor inner front v ∧ IsTrailing kept := by
  unfold span? at h
  simp only [Option.bind_eq_bind, Option.bind_eq_some_iff] at h
  obtain ⟨left, hleft, ⟨v, step⟩, hend, hspan⟩ := h
  split at hspan
  · rename_i hstep
    subst hstep
    have hopens := opensWith_iff.2 (Option.isSome_of_eq_some hleft)
    obtain ⟨blanks, hblanks, hsplit⟩ := exists_blanks text
    have hstarts := starts_dropBlanks text
    -- the scan stops at the constructor's parenthesis, and the trailing calls are those behind it
    obtain ⟨inner, rest, front, heq, hconstructor⟩ := exists_constructor hend
    obtain ⟨kept, behind, rfl, hlength, hkept⟩ := exists_trailing rest
    have hspanStarts : Starts (inner ++ ')' :: kept) := by
      rw [heq] at hstarts
      cases inner <;> exact hstarts
    rw [heq, hconstructor.drop_behind, hlength, hconstructor.take_through,
      IsConstructor.trim_trailing hkept hspanStarts] at hspan
    obtain rfl := Option.some.inj hspan
    have hwhole : dropBlanks text = (inner ++ ')' :: kept) ++ behind := by
      rw [heq]
      simp
    rw [hwhole] at hsplit hopens
    exact ⟨blanks, behind, inner, kept, front, v, hblanks, hsplit, hspanStarts, hopens, rfl,
      hconstructor, hkept⟩
  · exact absurd hspan (by simp)

/-- A constructor with its trailing calls is the span of every text that begins with it and goes on
with no other trailing call. -/
lemma IsConstructor.span? {inner kept : List Char} {front : List Visit}
    (h : IsConstructor inner front v) (hkept : IsTrailing kept)
    (hstarts : Starts (inner ++ ')' :: kept))
    (hopens : OpensWith namespaceName (inner ++ ')' :: kept)) (hmore : trailingCall? more = none) :
    span? namespaceName (inner ++ ')' :: (kept ++ more)) = some (inner ++ ')' :: kept) := by
  have hwhole : inner ++ ')' :: (kept ++ more) = (inner ++ ')' :: kept) ++ more := by simp
  have hblanks : dropBlanks (inner ++ ')' :: (kept ++ more)) = inner ++ ')' :: (kept ++ more) := by
    rw [hwhole]
    exact dropBlanks_of_starts (hstarts.append (by simp) more)
  obtain ⟨left, hleft⟩ := Option.isSome_iff_exists.1 (opensWith_iff.1 (hopens.append more))
  rw [← hwhole] at hleft
  unfold Scan.span?
  simp only [hblanks, hleft, h.spanEnd?, Option.bind_eq_bind, Option.bind_some, if_true,
    h.drop_behind, hkept.length more hmore, h.take_through, trim_trailing hkept hstarts]

/-- The span of a declaration begins at the first character from its start on that is no blank, and
ends with a parenthesis. Alone it is scanned to its end outside strings and calls, with no depth
negative anywhere. Unless the namespace holds a closing parenthesis it begins with the namespace and
its dot, and whenever it does, it is its own span, alone and before a semicolon in any other text.
-/
theorem span?_exact {start : ℕ} (h : span? namespaceName (text.drop start) = some span) :
    (∃ blanks behind, Blanks blanks ∧ text.drop start = blanks ++ (span ++ behind)) ∧
      Starts span ∧ span.getLast? = some ')' ∧
      (finalState {} (walk span)).inString = false ∧ (finalState {} (walk span)).paren = 0 ∧
      (finalState {} (walk span)).brace = 0 ∧
      (∀ w ∈ walk span, w.after.unbalanced = false) ∧
      (')' ∉ namespaceName → OpensWith namespaceName span) ∧
      (OpensWith namespaceName span →
        span? namespaceName (span.drop 0) = some span ∧
        ∀ front more,
          span? namespaceName ((front ++ (span ++ ';' :: more)).drop front.length)
            = some span) := by
  obtain ⟨blanks, behind, inner, kept, front, v, hblanks, hsplit, hstarts, hopens, rfl,
    hconstructor, hkept⟩ := exists_of_span? h
  -- at the end of the constructor the scan is in code outside calls, and the trailing calls keep
  -- that
  have hcalls := hconstructor.closed.2.2.2
  rw [State.outsideCalls, Bool.and_eq_true, beq_iff_eq, beq_iff_eq] at hcalls
  have hfinal := hconstructor.finalState_trailing hkept
  have hstring : v.after.inString = false := by
    rw [State.inString, hconstructor.isCode.1]
    rfl
  have hnil : trailingCall? [] = none := by decide
  have hsemicolon : ∀ more, trailingCall? (';' :: more) = none := fun more => rfl
  refine ⟨⟨blanks, behind, hblanks, hsplit⟩, hstarts,
    IsConstructor.getLast?_trailing hkept inner, ?_, ?_, ?_,
    hconstructor.unbalanced_trailing hkept, fun hname => ?_,
    fun hspan => ⟨?_, fun front more => ?_⟩⟩
  · rw [hfinal, hstring]
  · rw [hfinal, hcalls.1]
  · rw [hfinal, hcalls.2]
  · rw [List.append_assoc, List.cons_append] at hopens
    exact hopens.front hname (')' :: kept)
  · have halone := hconstructor.span? hkept hstarts hspan hnil
    rwa [List.append_nil] at halone
  · rw [List.drop_left, List.append_assoc, List.cons_append]
    exact hconstructor.span? hkept hstarts hspan (hsemicolon more)

/-- A declaration over several lines, with brackets in a string and in comments, and with calls
behind it, of which the last one does not belong to it. -/
theorem span?_exact_lines :
    ∃ span, span = "z\n  .object(\x7b // )\n  a: z.enum([')'])\x7d /* ) */)\n  .min(1)".toList ∧
      span? "z".toList (("x =  ".toList ++ (span ++ ".refine()".toList)).drop 3) = some span ∧
      ∀ more, span? "z".toList (span ++ ';' :: more) = some span := by
  have hspan : span? "z".toList (("x =  ".toList ++
      ("z\n  .object(\x7b // )\n  a: z.enum([')'])\x7d /* ) */)\n  .min(1)".toList ++
        ".refine()".toList)).drop 3)
      = some "z\n  .object(\x7b // )\n  a: z.enum([')'])\x7d /* ) */)\n  .min(1)".toList := by
    decide +kernel
  obtain ⟨-, -, -, -, -, -, -, hopens, hagain⟩ := span?_exact hspan
  exact ⟨_, rfl, hspan, (hagain (hopens (by decide))).2 []⟩

/-- A namespace that closes a call of its own: the declaration closes with it, before the dot that
has to follow, so that the span is none alone. -/
theorem span?_called_namespace :
    span? "z()".toList ("z().".toList.drop 0) = some "z()".toList ∧
      ¬ OpensWith "z()".toList "z()".toList ∧ span? "z()".toList ("z()".toList.drop 0) = none := by
  decide +kernel

end SlideContract.Scan
