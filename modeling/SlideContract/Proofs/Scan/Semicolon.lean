import SlideContract.Proofs.Chain.Apart
import SlideContract.Proofs.Scan.Span

/-!
# Texts before a semicolon

A declaration does not run over a semicolon in code: of a text that closes its brackets and ends in
code, the span of a declaration, its trailing calls and everything that is read in front of them are
the same whether a semicolon and any text stand behind it or nothing does.

* `trailingLength_semicolon`: the calls behind a constructor;
* `span?_semicolon`: the span of a declaration.
-/

namespace SlideContract

/-! ## Reading a text from its front -/

namespace Text

variable {start : List Char} {c : Char}

/-- No beginning runs over a character that it does not hold. -/
lemma after?_append_cons (h : c ∉ start) (text more : List Char) :
    after? start (text ++ c :: more) = (after? start text).map (· ++ c :: more) := by
  induction start generalizing text with
  | nil => rfl
  | cons a start ih =>
    rw [List.mem_cons, not_or] at h
    cases text with
    | nil =>
      show (if a = c then _ else none) = none
      rw [if_neg (Ne.symm h.1)]
    | cons d text =>
      rw [List.cons_append, after?, after?, ih h.2]
      split <;> rfl

lemma takeWhile_append_cons {p : Char → Bool} (h : p c = false) (text more : List Char) :
    (text ++ c :: more).takeWhile p = text.takeWhile p := by
  induction text with
  | nil => rw [List.nil_append, List.takeWhile_cons, h]; rfl
  | cons d text ih =>
    rw [List.cons_append, List.takeWhile_cons, List.takeWhile_cons, ih]

lemma dropBlanks_append_cons (h : isBlank c = false) (text more : List Char) :
    dropBlanks (text ++ c :: more) = dropBlanks text ++ c :: more := by
  induction text with
  | nil => exact dropBlanks_of_starts (starts_cons h more)
  | cons d text ih =>
    unfold dropBlanks at ih ⊢
    rw [List.cons_append, List.dropWhile_cons, List.dropWhile_cons, ih]
    split <;> rfl

/-- The first character is another one than that behind the text only if the text has it. -/
lemma head?_append_cons {d : Char} (h : d ≠ c) (text more : List Char) :
    (text ++ c :: more).head? = some d ↔ text.head? = some d := by
  cases text with
  | nil => simp [Ne.symm h]
  | cons e text => rfl

end Text

namespace Scan
open Text Chain

variable {text namespaceName : List Char} {v : Visit}

lemma afterNamespaceDot?_semicolon (h : ';' ∉ namespaceName) (text more : List Char) :
    afterNamespaceDot? namespaceName (text ++ ';' :: more)
      = (afterNamespaceDot? namespaceName text).map (· ++ ';' :: more) := by
  unfold afterNamespaceDot?
  rw [after?_append_cons h]
  cases after? namespaceName text with
  | none => rfl
  | some rest =>
    simp only [Option.map_some, Option.bind_eq_bind, Option.bind_some,
      dropBlanks_append_cons (show isBlank ';' = false by decide)]
    cases dropBlanks rest with
    | nil => rfl
    | cons c rest =>
      by_cases hc : c = '.'
      · rw [hc]
        rfl
      · simp [hc]

/-- A chain is not continued over a character that is neither a blank nor a dot. -/
lemma continuesChain_append_cons {c : Char} (hblank : isBlank c = false) (hdot : c ≠ '.')
    (text more : List Char) : continuesChain (text ++ c :: more) = continuesChain text := by
  unfold continuesChain
  rw [dropBlanks_append_cons hblank]
  cases dropBlanks text with
  | nil => simp [hdot]
  | cons d rest =>
    by_cases hd : d = '.'
    · simp only [hd, List.cons_append, beginsWith,
        after?_append_cons (show c ∉ ['.', '.'] by simp [hdot]), Option.isSome_map]
    · simp [hd]

/-! ## Calls behind a constructor -/

/-- What is left behind a call that closes. -/
lemma Rest.drop_call {names : List (List Char)} (hnames : ∀ name ∈ names, IsIdentifier name)
    (h : Rest text) {n : ℕ} (hn : callLength? names ('.' :: text) = some n) :
    n ≤ ('.' :: text).length ∧ Rest (('.' :: text).drop n) := by
  unfold callLength? at hn
  simp only [Option.bind_eq_bind, Option.bind_eq_some_iff, Option.pure_def, Option.some.injEq] at hn
  obtain ⟨opening, hopening, region, hregion, rfl⟩ := hn
  obtain ⟨front, args, rfl, rfl, hfront, -⟩ := exists_front_of_callOpening? hnames hopening
  rw [List.drop_succ_cons, List.drop_left] at hregion
  obtain ⟨v, hv, hout, rfl⟩ := exists_of_regionLength? hregion
  have hindex := (index_of_mem_visits hv).2
  rw [← List.drop_drop, List.drop_succ_cons, List.drop_left, List.length_cons, List.length_append]
  exact ⟨by omega, (Rest.of_still hfront h).drop hv hout⟩

lemma drop_takeWhile_isBlank (text : List Char) :
    text.drop (text.takeWhile isBlank).length = dropBlanks text := by
  have hleft := @List.drop_left _ (text.takeWhile isBlank) (text.dropWhile isBlank)
  rwa [List.takeWhile_append_dropWhile] at hleft

lemma Rest.behind_dot (h : Rest ('.' :: text)) : Rest text := by
  have hdot : IsStill '.' := ⟨rfl, by decide⟩
  exact @Rest.of_still text ['.'] (fun c hc => List.mem_singleton.1 hc ▸ hdot) h

/-- What is left behind blanks. -/
lemma Rest.dropBlanks (h : Rest text) : Rest (Text.dropBlanks text) := by
  obtain ⟨blanks, hblanks, hsplit⟩ := exists_blanks text
  rw [hsplit] at h
  exact .of_still (fun c hc => isStill_of_isBlank (hblanks c hc)) h

lemma trailingCall?_semicolon (h : Rest text) (more : List Char) :
    trailingCall? (text ++ ';' :: more) = trailingCall? text := by
  have hlength := @List.takeWhile_prefix _ text isBlank |>.length_le
  unfold trailingCall?
  simp only [takeWhile_append_cons (show isBlank ';' = false by decide),
    List.drop_append_of_le_length hlength, drop_takeWhile_isBlank,
    head?_append_cons (show '.' ≠ ';' by decide)]
  split
  · rename_i hdot
    obtain ⟨rest, hrest⟩ := List.head?_eq_some_iff.1 hdot
    have hcall := h.dropBlanks
    rw [hrest] at hcall ⊢
    rw [List.cons_append, callLength?_append isIdentifier_of_trailingMethods hcall.behind_dot
      (quits_of_isSeparator (by decide) (by decide) more)]
  · rfl

/-- What is left behind a trailing call. -/
lemma Rest.drop_trailing (h : Rest text) {n : ℕ} (hn : trailingCall? text = some n) :
    n ≤ text.length ∧ Rest (text.drop n) := by
  have hlength := congrArg List.length (@List.takeWhile_append_dropWhile _ isBlank text)
  unfold trailingCall? at hn
  simp only [drop_takeWhile_isBlank] at hn
  split at hn
  · rename_i hdot
    obtain ⟨rest, hrest⟩ := List.head?_eq_some_iff.1 hdot
    obtain ⟨m, hm, rfl⟩ := Option.map_eq_some_iff.1 hn
    have hcall := h.dropBlanks
    rw [hrest] at hcall hm
    obtain ⟨hle, hbehind⟩ := hcall.behind_dot.drop_call isIdentifier_of_trailingMethods hm
    rw [← hrest] at hle hbehind
    rw [← List.drop_drop, drop_takeWhile_isBlank]
    refine ⟨?_, hbehind⟩
    rw [← hlength, List.length_append]
    exact Nat.add_le_add_left hle _
  · exact absurd hn (by simp)

/-- The trailing calls of a text end before a semicolon behind it. -/
lemma trailingLength_semicolon (h : Rest text) (more : List Char) :
    trailingLength text ≤ text.length ∧
      trailingLength (text ++ ';' :: more) = trailingLength text := by
  -- by length: a trailing call is read as before, and what is behind it is shorter
  induction hlength : text.length using Nat.strong_induction_on generalizing text with
  | _ n ih =>
    cases hcall : trailingCall? text with
    | none =>
      have hcall' := (trailingCall?_semicolon h more).trans hcall
      rw [trailingLength_of_none hcall, trailingLength_of_none hcall']
      exact ⟨Nat.zero_le _, rfl⟩
    | some m =>
      obtain ⟨hle, hrest⟩ := h.drop_trailing hcall
      have hpos := (length_of_trailingCall? hcall).1
      have hdrop : (text.drop m).length = text.length - m := List.length_drop
      obtain ⟨hbound, hmore⟩ := ih _ (by omega) hrest rfl
      have hcall' := (trailingCall?_semicolon h more).trans hcall
      rw [trailingLength_of_some hcall, trailingLength_of_some hcall',
        List.drop_append_of_le_length hle, hmore]
      exact ⟨by omega, rfl⟩

/-! ## Spans -/

/-- What a character of a text means for a declaration does not depend on what stands behind a
character over which no chain is continued. -/
lemma spanStep_append_cons {c : Char} (hblank : isBlank c = false) (hdot : c ≠ '.')
    (h : v.index < text.length) (more : List Char) :
    spanStep (text ++ c :: more) v = spanStep text v := by
  unfold spanStep
  rw [List.drop_append_of_le_length h, continuesChain_append_cons hblank hdot]

lemma findSome?_congr {α β : Type} {f g : α → Option β} {list : List α}
    (h : ∀ a ∈ list, f a = g a) : list.findSome? f = list.findSome? g := by
  induction list with
  | nil => rfl
  | cons a list ih =>
    rw [List.findSome?_cons, List.findSome?_cons, h a List.mem_cons_self,
      ih fun b hb => h b (List.mem_cons_of_mem _ hb)]

/-- A semicolon behind the text cuts a declaration off that has not ended before. -/
lemma spanEnd?_semicolon (h : EndsInCode text) (more : List Char) :
    ∃ w, spanEnd? (text ++ ';' :: more) = (spanEnd? text).or (some (w, .cut)) := by
  obtain ⟨w, rest, hwalk, -, hchar, hout⟩ := h.walk_semicolon more
  have hcut : spanStep (text ++ ';' :: more) w = .cut := by
    unfold spanStep
    rw [hout, hchar]
    simp
  refine ⟨w, ?_⟩
  unfold spanEnd?
  rw [hwalk, List.findSome?_append, List.findSome?_cons, hcut]
  refine congrArg (fun found => Option.or found (some (w, SpanStep.cut))) (findSome?_congr ?_)
  -- up to the semicolon each visit means the same
  intro v hv
  have hindex := (index_of_mem_visits hv).2
  rw [Nat.zero_add] at hindex
  rw [spanStep_append_cons (by decide) (by decide) hindex]

/-- A declaration is closed by a parenthesis in code, behind which no call is open. -/
lemma spanStep_eq_closed_iff : spanStep text v = .closed ↔
    v.outside = true ∧ v.char = ')' ∧ v.after.unbalanced = false ∧
      v.after.outsideCalls = true := by
  unfold spanStep
  constructor
  · intro h
    split_ifs at h with hout hcut hline hclosed
    rw [Bool.or_eq_true, not_or, Bool.not_eq_true] at hcut
    rw [Bool.and_eq_true, beq_iff_eq] at hclosed
    exact ⟨by simpa using hout, hclosed.1, hcut.1, hclosed.2⟩
  · rintro ⟨hout, hchar, hbalanced, hcalls⟩
    simp [hout, hchar, hbalanced, hcalls]

/-- The span of a declaration is the same with a semicolon behind the text, which cuts off a
declaration that is not closed before. -/
theorem span?_semicolon (hname : ';' ∉ namespaceName) (h : Rest text) (more : List Char) :
    span? namespaceName (text ++ ';' :: more) = span? namespaceName text := by
  have hrest := h.dropBlanks
  unfold span?
  simp only [dropBlanks_append_cons (show isBlank ';' = false by decide)]
  generalize Text.dropBlanks text = text at hrest
  obtain ⟨w, hend⟩ := spanEnd?_semicolon hrest.ends more
  simp only [afterNamespaceDot?_semicolon hname, hend]
  cases afterNamespaceDot? namespaceName text with
  | none => rfl
  | some behind =>
    cases hspan : spanEnd? text with
    | none => rfl
    | some found =>
      obtain ⟨v, step⟩ := found
      simp only [Option.map_some, Option.bind_eq_bind, Option.bind_some, Option.some_or]
      -- a span that closes lies in front of the semicolon; any other end means that there is
      -- none, with or without it
      by_cases hclosed : step = .closed
      · rw [if_pos hclosed, if_pos hclosed]
        subst hclosed
        obtain ⟨before, after, hwalk, hstep, -⟩ := (spanEnd?_eq_some_iff (by decide)).1 hspan
        have hout := (spanStep_eq_closed_iff.1 hstep).1
        have hv : v ∈ walk text := by
          rw [hwalk]
          exact List.mem_append_right _ List.mem_cons_self
        have hindex : v.index + 1 ≤ text.length := by
          have := (index_of_mem_visits hv).2
          omega
        obtain ⟨hle, hlength⟩ := trailingLength_semicolon (hrest.drop hv hout) more
        rw [List.length_drop] at hle
        rw [List.drop_append_of_le_length hindex, hlength, List.take_append_of_le_length (by omega)]
      · rw [if_neg hclosed, if_neg hclosed]

end Scan

end SlideContract
