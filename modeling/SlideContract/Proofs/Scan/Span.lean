import SlideContract.Proofs.Chain.Cut
import SlideContract.Proofs.Chain.Spelling
import SlideContract.Scan.Span

/-!
# Spans of written declarations

The span of a declaration closes with the argument list of its constructor, if no semicolon and no
line break cuts it off before, and goes on over the calls behind it up to the first one that is not
of a trailing method. What stands behind that is lost.

* `spanEnd?_called`: the declaration closes with its argument list;
* `trailingCall?_part`, `exists_kept`: the calls behind it that belong to the declaration;
* `span?_called`: the span of a declaration, whatever comments stand in its argument lists.
-/

namespace SlideContract

/-- The call belongs to a declaration in front of it. -/
def Call.trails (call : Call) : Bool :=
  call.isCalled && decide (call.name.toList ∈ Scan.trailingMethods)

namespace Scan
open Text Chain

variable {front args more rest : List Char}

/-- A constructor: what stands before its argument list, the list, and what stands behind it. -/
def applied (front args more : List Char) : List Char := front ++ '(' :: (args ++ ')' :: more)

lemma applied_append (front args more rest : List Char) :
    applied front args more ++ rest = applied front args (more ++ rest) := by
  simp [applied]

/-- A text ends with a character if its front does and what stands behind that, if anything. -/
lemma getLast?_append_of_last {text : List Char} {c : Char} (h : text.getLast? = some c)
    (hmore : ∀ d ∈ more.getLast?, d = c) : (text ++ more).getLast? = some c := by
  rw [List.getLast?_append, h]
  cases hlast : more.getLast? with
  | none => rfl
  | some d => rw [hmore d hlast, Option.some_or]

/-- A constructor ends with a parenthesis if what stands behind its argument list does. -/
lemma getLast?_applied (front args : List Char) (h : ∀ c ∈ more.getLast?, c = ')') :
    (applied front args more).getLast? = some ')' := by
  have hsplit : applied front args more = (front ++ '(' :: (args ++ [')'])) ++ more := by
    simp [applied]
  have hfront : (front ++ '(' :: (args ++ [')'])).getLast? = some ')' := by
    rw [← List.cons_append, ← List.append_assoc, List.getLast?_concat]
  rw [hsplit, getLast?_append_of_last hfront h]

/-! ## The end of the constructor -/

/-- The character may stand before the argument list of a constructor: in a name, as a dot, or as a
blank on the same line. -/
def IsFront (c : Char) : Prop := isNameChar c = true ∨ c = '.' ∨ isBlank c = true ∧ c ≠ '\n'

/-- The characters of a namespace, a dot and a constructor leave the scan as it is. -/
lemma advance_front {c : Char} (h : IsFront c) : State.advance {} c = {} := by
  rcases h with h | rfl | h
  · exact advance_of_not_mem (not_mem_marks_of_isNameChar h)
  · rfl
  · exact advance_of_not_mem (not_mem_marks_of_isBlank h.1)

lemma IsFront.ne {c : Char} (h : IsFront c) : c ≠ '/' ∧ c ≠ ';' ∧ c ≠ '\n' ∧ c ≠ ')' := by
  rcases h with h | rfl | ⟨hblank, hbreak⟩
  · have hmarks := not_mem_marks_of_isNameChar h
    refine ⟨ne_of_not_mem_marks hmarks (by decide), ne_of_not_mem_marks hmarks (by decide), ?_,
      ne_of_not_mem_marks hmarks (by decide)⟩
    rintro rfl
    rw [isNameChar_of_isSeparator (by decide)] at h
    exact absurd h (by decide)
  · decide
  · have hmarks := not_mem_marks_of_isBlank hblank
    exact ⟨ne_of_not_mem_marks hmarks (by decide), ne_of_not_mem_marks hmarks (by decide), hbreak,
      ne_of_not_mem_marks hmarks (by decide)⟩

lemma IsFront.isStill {c : Char} (h : IsFront c) : IsStill c := ⟨advance_front h, h.ne.1⟩

/-- Nothing in front of the argument list cuts or closes a declaration. -/
lemma spanStep_front (text : List Char) (h : ∀ c ∈ front, IsFront c) :
    ∀ v ∈ trace {} 0 front, spanStep text v = .inside := by
  intro v hv
  obtain ⟨before, c, behind, rfl, rfl⟩ := mem_trace.1 hv
  have hrun : State.run {} before = {} :=
    (Balanced.of_still fun d hd => (h d (by simp [hd])).isStill).final
  have hc := h c (by simp)
  have hadvance := advance_front hc
  unfold spanStep visit
  rw [hrun, hadvance]
  simp [hc.ne, State.unbalanced]

/-- No semicolon stands in the code of the text. -/
def Unended (text : List Char) : Prop :=
  ∀ before behind, text = before ++ ';' :: behind → (State.run {} before).quote ≠ none

/-- Inside an argument list the scan is inside a call. -/
lemma outsideCalls_raise {s : State} (h : s.unbalanced = false) :
    ((State.advance {} '(').raise s).outsideCalls = false := by
  rw [State.unbalanced_eq_false_iff] at h
  have hparen : (1 + s.paren == 0) = false := by
    rw [beq_eq_false_iff_ne]
    omega
  show (1 + s.paren == 0 && 0 + s.brace == 0) = false
  rw [hparen]
  rfl

/-- Inside the argument list only a semicolon in code could cut a declaration off. -/
lemma spanStep_inside (text : List Char) (hargs : Commented args)
    (hunended : Unended (stripComments args)) (index : ℕ) :
    ∀ v ∈ (visits {} index args).map (·.raise (State.advance {} '(')),
      spanStep text v = .inside := by
  intro v hv
  obtain ⟨-, hopen, -, -⟩ := bracket_states (show closer? '(' = some ')' from rfl)
  obtain ⟨w, hw, rfl⟩ := List.mem_map.1 hv
  have hafter := raise_unbalanced hopen (hargs.closes hw)
  have houtside := outsideCalls_raise (hargs.closes hw)
  obtain ⟨before, c, after, -, rfl, hshed, hvisited⟩ := exists_of_mem_visits hw
  rw [hvisited] at hshed
  set s := State.run {} (shed {} before) with hs
  -- the argument list closes its own brackets, so there only a semicolon could end the scan
  by_cases hcode : (visit s (index + before.length) c).outside = true
  · have hquote : s.quote = none := by
      have hboth : (s.quote.isNone && !isQuote c) = true := hcode
      rw [Bool.and_eq_true, Option.isNone_iff_eq_none] at hboth
      exact hboth.1
    have hsemicolon : c ≠ ';' := by
      rintro rfl
      exact hunended _ _ hshed hquote
    unfold spanStep
    simp only [Visit.raise, hafter, houtside]
    simp [visit, hsemicolon]
  · unfold spanStep
    simp only [Visit.raise, hcode]
    rfl

/-- A declaration ends at the first character that cuts it off or closes it. -/
lemma spanEnd?_eq_some_iff {text : List Char} {v : Visit} {step : SpanStep}
    (hstep : step ≠ .inside) :
    spanEnd? text = some (v, step) ↔
      ∃ before behind, walk text = before ++ v :: behind ∧ spanStep text v = step ∧
        ∀ w ∈ before, spanStep text w = .inside := by
  unfold spanEnd?
  -- the search keeps what is not `inside`, so its first hit is the first step that ends the span
  rw [List.findSome?_eq_some_iff]
  constructor
  · rintro ⟨before, w, behind, hwalk, hw, hbefore⟩
    split at hw
    · exact absurd hw (by simp)
    · obtain ⟨rfl, rfl⟩ := Prod.mk.inj (Option.some.inj hw)
      refine ⟨before, behind, hwalk, rfl, fun u hu => ?_⟩
      have hnone := hbefore u hu
      split at hnone
      · assumption
      · exact absurd hnone (by simp)
  · rintro ⟨before, behind, hwalk, hv, hbefore⟩
    refine ⟨before, v, behind, hwalk, ?_, fun u hu => ?_⟩
    · split
      · rename_i hinside
        exact absurd (hv.symm.trans hinside) hstep
      · rw [hv]
    · rw [hbefore u hu]

/-- A declaration closes with its argument list. -/
lemma spanEnd?_called (hfront : ∀ c ∈ front, IsFront c) (hargs : Commented args)
    (hunended : Unended (stripComments args)) (more : List Char) :
    spanEnd? (applied front args more)
      = some (visit (State.advance {} '(') (front.length + 1 + args.length) ')', .closed) := by
  set text := applied front args more with htext
  have hcloser : closer? '(' = some ')' := rfl
  obtain ⟨hcode, -, -, hclose⟩ := bracket_states hcloser
  have hbalanced := Balanced.of_still fun c hc => (hfront c hc).isStill
  -- the walk is that of the front, of the list moved one level down, and of what is behind
  have hwalk : walk text = trace {} 0 front ++ (visit {} front.length '(' ::
      ((visits {} (front.length + 1) args).map (·.raise (State.advance {} '(')) ++
        visit (State.advance {} '(') (front.length + 1 + args.length) ')' ::
          visits {} (front.length + 1 + args.length + 1) more)) := by
    unfold walk
    rw [htext, applied, visits_append hbalanced.plain (Follows.joins ⟨by simp, by simp⟩ _),
      hbalanced.final, Nat.zero_add, visits_bracket hcloser hargs hcode, hclose]
  have hopener : spanStep text (visit {} front.length '(') = .inside := rfl
  have hend : spanStep text (visit (State.advance {} '(') (front.length + 1 + args.length) ')')
      = .closed := rfl
  rw [← List.cons_append, ← List.append_assoc] at hwalk
  refine (spanEnd?_eq_some_iff (by decide)).2 ⟨_, _, hwalk, hend, fun w hw => ?_⟩
  rcases List.mem_append.1 hw with hw | hw
  · exact spanStep_front text hfront w hw
  rcases List.mem_cons.1 hw with rfl | hw
  · exact hopener
  · exact spanStep_inside text hargs hunended _ w hw

/-! ## Calls behind the constructor -/

lemma isIdentifier_of_trailingMethods : ∀ name ∈ trailingMethods, IsIdentifier name :=
  fun name hname => isIdentifier_of_letters (List.all_eq_true.1
    (show (trailingMethods.all fun word => !word.isEmpty && word.all Char.isAlpha) = true by decide)
    name hname)

variable {P : List Char → Prop} {blanks part text : List Char} {call : Call} {calls : List Call}

/-- A call behind a declaration belongs to it exactly if it is one of a trailing method. -/
lemma trailingCall?_part (hblanks : Blanks blanks) (hpart : SpellsPart Commented part call)
    (hcalled : call.isCalled = true) (rest : List Char) :
    trailingCall? (blanks ++ '.' :: (part ++ rest))
      = if call.trails then some (blanks.length + (part.length + 1)) else none := by
  cases hpart with
  | bare hlead hname => exact absurd hcalled (by simp [Call.isCalled])
  | @called lead name gap args hlead hname hgap hargs =>
    set text := lead ++ (name ++ (gap ++ '(' :: (args ++ ')' :: rest))) with htext
    have hsplit : lead ++ (name ++ (gap ++ '(' :: (args ++ [')']))) ++ rest = text := by
      rw [htext]
      simp
    have hdot : Starts ('.' :: text) := starts_cons (by decide) text
    have htrails :
        Call.trails ⟨String.ofList name, some args⟩ = decide (name ∈ trailingMethods) := by
      unfold Call.trails
      rw [String.toList_ofList]
      rfl
    rw [hsplit, htrails]
    unfold trailingCall? callLength?
    simp only [takeWhile_blanks hblanks hdot, List.drop_left, List.head?_cons, if_true]
    -- the opening of a call is found by its name only; the region behind it is then that of its
    -- arguments
    by_cases hmem : name ∈ trailingMethods
    · have hopening := (callOpening?_eq_some_iff isIdentifier_of_trailingMethods).2
        ⟨name, hmem, lead, gap, args ++ ')' :: rest, hlead, hgap, htext, rfl⟩
      have hdrop : ('.' :: text).drop (1 + lead.length + name.length + gap.length)
          = '(' :: (args ++ ')' :: rest) := by
        have hlength : 1 + lead.length + name.length + gap.length
            = ('.' :: (lead ++ (name ++ gap))).length := by
          simp only [List.length_cons, List.length_append]
          omega
        have hsplit : '.' :: text
            = ('.' :: (lead ++ (name ++ gap))) ++ '(' :: (args ++ ')' :: rest) := by
          rw [htext]
          simp
        rw [hlength, hsplit, List.drop_left]
      rw [hopening, if_pos (by simpa using hmem)]
      simp only [Option.bind_eq_bind, Option.bind_some, hdrop, Option.pure_def, Option.map_some,
        regionLength?_bracket (show closer? '(' = some ')' from rfl) hargs rest]
      simp only [List.length_append, List.length_cons, List.length_nil, Option.some.injEq]
      omega
    · -- the text is opened by this name only, which is not one of a trailing method
      have hnone : callOpening? trailingMethods ('.' :: text) = none := by
        rw [Option.eq_none_iff_forall_ne_some]
        intro n hn
        obtain ⟨name', hname', blanks', gap', rest', hblanks', hgap', heq, -⟩ :=
          exists_of_callOpening? hn
        obtain ⟨-, rfl, -⟩ := opening_unique hname (isIdentifier_of_trailingMethods name' hname')
          hlead hblanks' hgap hgap' (htext.symm.trans heq)
        exact hmem hname'
      rw [hnone, if_neg (by simpa using hmem)]
      rfl

lemma trailingLength_of_none (h : trailingCall? rest = none) : trailingLength rest = 0 := by
  unfold trailingLength
  split
  · rfl
  · rename_i n heq
    rw [h] at heq
    exact absurd heq (by simp)

lemma trailingLength_of_some {n : ℕ} (h : trailingCall? rest = some n) :
    trailingLength rest = n + trailingLength (rest.drop n) := by
  conv_lhs => unfold trailingLength
  split
  · rename_i heq
    rw [h] at heq
    exact absurd heq (by simp)
  · rename_i m heq
    rw [h, Option.some.injEq] at heq
    subst heq
    rfl

/-- The rest of a source goes on with no trailing call. -/
def Ends (rest : List Char) : Prop :=
  ∀ blanks, Blanks blanks → trailingCall? (blanks ++ rest) = none

/-- The calls behind a constructor up to the first one that is not of a trailing method, and the
others. -/
lemma exists_kept (h : SpellsRest P text calls) (hcalled : ∀ call ∈ calls, call.isCalled = true) :
    ∃ kept dropped, text = kept ++ dropped ∧ SpellsRest P kept (calls.takeWhile Call.trails) ∧
      SpellsRest P dropped (calls.dropWhile Call.trails) ∧ ∀ c ∈ kept.getLast?, c = ')' := by
  -- along the calls, up to the first that does not trail
  induction calls generalizing text with
  | nil => exact ⟨[], text, rfl, .nil, h, by simp⟩
  | cons call calls ih =>
    cases htrails : call.trails with
    | false =>
      rw [List.takeWhile_cons, List.dropWhile_cons, htrails]
      exact ⟨[], text, rfl, .nil, h, by simp⟩
    | true =>
      obtain ⟨blanks, part, more, rfl, hblanks, hpart, hmore⟩ := h.exists_part
      obtain ⟨kept, dropped, rfl, hkept, hdropped, hlast⟩ :=
        ih hmore fun c hc => hcalled c (List.mem_cons_of_mem _ hc)
      rw [List.takeWhile_cons, List.dropWhile_cons, htrails]
      have hfront : (blanks ++ '.' :: part).getLast? = some ')' := by
        rw [List.getLast?_append, List.getLast?_cons,
          hpart.getLast?_called (hcalled call List.mem_cons_self)]
        rfl
      refine ⟨blanks ++ '.' :: (part ++ kept), dropped, by simp,
        (SpellsRest.of_blanks hblanks).append (.part hpart hkept), hdropped, fun c hc => ?_⟩
      rw [← List.cons_append, ← List.append_assoc, getLast?_append_of_last hfront hlast] at hc
      exact (Option.some.inj hc).symm

/-- No trailing call comes where the next call is of some other method, or none comes. -/
lemma trailingCall?_dropped (h : SpellsRest P text calls) (hP : ∀ args, P args → Commented args)
    (hcalled : ∀ call ∈ calls, call.isCalled = true)
    (hhead : ∀ call ∈ calls.head?, call.trails = false)
    (hrest : Ends rest) : trailingCall? (text ++ rest) = none := by
  cases calls with
  | nil => exact hrest text h.blanks_of_nil
  | cons call calls =>
    obtain ⟨blanks, part, more, rfl, hblanks, hpart, -⟩ := h.exists_part
    have hcall := trailingCall?_part hblanks (hpart.mono hP) (hcalled call List.mem_cons_self)
      (more ++ rest)
    have hwhole :
        blanks ++ '.' :: (part ++ more) ++ rest = blanks ++ '.' :: (part ++ (more ++ rest)) := by
      simp
    rw [hwhole, hcall, hhead call rfl]
    rfl

/-- A declaration goes on over trailing calls up to where none comes. -/
lemma trailingLength_kept (h : SpellsRest P text calls) (hP : ∀ args, P args → Commented args)
    (htrails : ∀ call ∈ calls, call.trails = true) (hlast : ∀ c ∈ text.getLast?, c = ')')
    (hrest : trailingCall? rest = none) : trailingLength (text ++ rest) = text.length := by
  induction calls generalizing text with
  | nil =>
    -- only blanks could stand here, and they do not end with a parenthesis
    have hnil : text = [] := by
      by_contra hsome
      have hblank := h.blanks_of_nil _ (List.getLast_mem hsome)
      rw [hlast _ (List.getLast?_eq_some_getLast hsome)] at hblank
      exact absurd hblank (by decide)
    rw [hnil, List.nil_append, trailingLength_of_none hrest]
    rfl
  | cons call calls ih =>
    obtain ⟨blanks, part, more, rfl, hblanks, hpart, hmore⟩ := h.exists_part
    have hcalled := (Bool.and_eq_true_iff.1 (htrails call List.mem_cons_self)).1
    have hcall := trailingCall?_part hblanks (hpart.mono hP) hcalled (more ++ rest)
    have hfront : blanks.length + (part.length + 1) = (blanks ++ '.' :: part).length := by
      rw [List.length_append, List.length_cons]
    have hsplit :
        blanks ++ '.' :: (part ++ (more ++ rest)) = (blanks ++ '.' :: part) ++ (more ++ rest) := by
      simp
    have hwhole :
        blanks ++ '.' :: (part ++ more) ++ rest = (blanks ++ '.' :: part) ++ (more ++ rest) := by
      simp
    have htail := ih hmore (fun c hc => htrails c (List.mem_cons_of_mem _ hc)) fun c hc =>
      hlast c (by
        rw [← List.cons_append, ← List.append_assoc, List.getLast?_append, Option.mem_def.1 hc]
        rfl)
    rw [htrails call List.mem_cons_self, if_pos rfl, hsplit, hfront] at hcall
    rw [hwhole, trailingLength_of_some hcall, List.drop_left, htail]
    simp only [List.length_append, List.length_cons]
    omega

/-- Blanks, semicolons and comments go on with no trailing call. -/
lemma ends_of_stripComments (h : ∀ c ∈ stripComments rest, c = ';' ∨ isBlank c = true) :
    Ends rest := by
  intro blanks hblanks
  unfold trailingCall?
  simp only
  split
  · rename_i hdot
    -- a dot that comes next would be left without the comments
    obtain ⟨gap, hgap, hrest⟩ := exists_blanks rest
    have hdrop : (blanks ++ rest).drop ((blanks ++ rest).takeWhile isBlank).length
        = dropBlanks rest := by
      have hfront : Blanks (blanks ++ gap) := .append hblanks hgap
      have hwhole : blanks ++ rest = (blanks ++ gap) ++ dropBlanks rest := by
        rw [List.append_assoc, ← hrest]
      rw [hwhole, takeWhile_blanks hfront (starts_dropBlanks rest), List.drop_left]
    rw [hdrop] at hdot
    obtain ⟨more, hmore⟩ := List.head?_eq_some_iff.1 hdot
    have hstill : ∀ c ∈ gap ++ ['.'], IsStill c := by
      intro c hc
      rcases List.mem_append.1 hc with hc | hc
      · exact isStill_of_isBlank (hgap c hc)
      · rw [List.mem_singleton.1 hc]
        exact ⟨rfl, by decide⟩
    have hsplit : rest = gap ++ ['.'] ++ more := by
      rw [hrest, hmore]
      simp
    rw [hsplit, stripComments_still hstill] at h
    rcases h '.' (by simp) with hc | hc
    · exact absurd hc (by decide)
    · exact absurd hc (by decide)
  · rfl

/-! ## Spans -/

/-- The span of a declaration is its constructor with the calls of trailing methods behind it. -/
theorem span?_called {namespaceName : List Char} (hfront : ∀ c ∈ front, IsFront c)
    (hstarts : Starts front) (hne : front ≠ [])
    (hnamespace : ∀ more, (afterNamespaceDot? namespaceName (front ++ more)).isSome = true)
    (hargs : Commented args) (hunended : Unended (stripComments args))
    (htext : SpellsRest P text calls)
    (hP : ∀ args, P args → Commented args) (htrails : ∀ call ∈ calls, call.trails = true)
    (hlast : ∀ c ∈ text.getLast?, c = ')') (hrest : trailingCall? rest = none) :
    span? namespaceName (applied front args (text ++ rest)) = some (applied front args text) := by
  have hlength := trailingLength_kept htext hP htrails hlast hrest
  have hend := spanEnd?_called hfront hargs hunended (text ++ rest)
  -- what stands up to the closing parenthesis
  set closed := front ++ '(' :: (args ++ [')']) with hclosed
  have hsplit : ∀ more, applied front args more = closed ++ more := by
    intro more
    rw [hclosed, applied]
    simp
  have hindex : front.length + 1 + args.length + 1 = closed.length := by
    rw [hclosed]
    simp only [List.length_append, List.length_cons, List.length_nil]
    omega
  have htake : (closed ++ (text ++ rest)).take (closed.length + text.length) = closed ++ text := by
    rw [← List.append_assoc, ← List.length_append, List.take_left]
  have hclosedStarts : Starts (closed ++ text) := by
    rw [← hsplit]
    exact hstarts.append hne _
  have hclosedStops : Stops (closed ++ text) := by
    rw [← hsplit]
    exact stops_of_getLast? (getLast?_applied front args hlast) (by decide)
  have hdropBlanks : ∀ more, dropBlanks (applied front args more) = applied front args more :=
    fun more => dropBlanks_of_starts (hstarts.append hne _)
  obtain ⟨behind, hbehind⟩ := Option.isSome_iff_exists.1
    (hnamespace ('(' :: (args ++ ')' :: (text ++ rest))))
  unfold span?
  simp only [hdropBlanks, hend, Option.bind_eq_bind, Option.bind_some, if_true, visit,
    show afterNamespaceDot? namespaceName (applied front args (text ++ rest)) = _ from hbehind]
  rw [hindex, hsplit, List.drop_left, hlength, htake,
    trim_of_starts_stops hclosedStarts hclosedStops, hsplit]

end Scan
end SlideContract
