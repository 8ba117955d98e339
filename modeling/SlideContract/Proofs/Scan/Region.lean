import SlideContract.Proofs.Scan.Plain

/-!
# Regions inside balanced texts

The region of a bracket is the same whether the text stands alone or before the closer of a bracket
around it. What is cut out of a balanced text from a place in code to the end of a region leaves a
balanced text, unless a slash comes to stand before what follows.

* `regionLength?_eq_some_iff`: a region ends with its closer at the top level;
* `regionLength?_eq_some`: behind a region the scan is back where it began;
* `Balanced.regionLength?_closer`: a closer behind a balanced text settles no region inside;
* `Balanced.cut`: what stays is balanced.
-/

namespace SlideContract.Scan

/-! ## States -/

namespace State

/-- Nothing is escaped outside strings. -/
lemma escaped_advance {s : State} (h : s.quote = none → s.escaped = false) (c : Char)
    (hcode : (s.advance c).quote = none) : (s.advance c).escaped = false := by
  obtain ⟨paren, brace, bracket, quote, escaped⟩ := s
  cases quote with
  | none =>
    have hescaped : escaped = false := h rfl
    unfold advance advanceInCode
    simp only
    split_ifs <;> exact hescaped
  | some quote =>
    unfold advance advanceInString at hcode ⊢
    simp only at hcode ⊢
    split_ifs at hcode ⊢ with h1 h2 h3 h4 <;> simp_all

lemma escaped_run {s : State} (h : s.quote = none → s.escaped = false) (text : List Char)
    (hcode : (s.run text).quote = none) : (s.run text).escaped = false := by
  induction text generalizing s with
  | nil => exact h hcode
  | cons c rest ih => exact ih (escaped_advance h c) hcode

/-- A scan that stands outside strings stands in code. -/
lemma isCode_run {text : List Char} (h : (run {} text).quote = none) : (run {} text).IsCode :=
  ⟨h, escaped_run (fun _ => rfl) text h⟩

lemma eq_empty {s : State} (hcode : s.IsCode) (hlevel : s.isLevel = true) : s = {} := by
  obtain ⟨paren, brace, bracket, quote, escaped⟩ := s
  obtain ⟨rfl, rfl⟩ := hcode
  simp only [isLevel, Bool.and_eq_true, beq_iff_eq] at hlevel
  obtain ⟨⟨rfl, rfl⟩, rfl⟩ := hlevel
  rfl

/-- A closer leads below the level where the scan was not above it. -/
lemma unbalanced_closer {s : State} {opener closer : Char} (h : closer? opener = some closer)
    (hcode : s.quote = none) (hparen : s.paren ≤ 0) (hbrace : s.brace ≤ 0)
    (hbracket : s.bracket ≤ 0) : (s.advance closer).unbalanced = true := by
  obtain ⟨paren, brace, bracket, quote, escaped⟩ := s
  subst hcode
  simp only at hparen hbrace hbracket
  unfold closer? at h
  split at h
  · cases h
    show (decide (paren - 1 < 0) || _ || _) = true
    simp
    omega
  · cases h
    show (_ || decide (brace - 1 < 0) || _) = true
    simp
    omega
  · cases h
    show (_ || _ || decide (bracket - 1 < 0)) = true
    simp
    omega
  · exact absurd h (by simp)

end State

/-! ## Balanced texts -/

variable {text more : List Char}

/-- A text is balanced if it is plain, ends where it began, and no beginning of it closes more than
it opens. -/
lemma balanced_iff : Balanced text ↔ Plain {} text ∧ State.run {} text = {} ∧
    ∀ before behind, text = before ++ behind → (State.run {} before).unbalanced = false := by
  constructor
  · intro h
    refine ⟨h.plain, h.final, ?_⟩
    intro before behind heq
    rcases List.eq_nil_or_concat before with rfl | ⟨start, c, rfl⟩
    · rfl
    · rw [List.concat_eq_append] at heq ⊢
      have hvisit := h.closes 0 (visit (State.run {} start) (0 + start.length) c)
        (mem_trace.2 ⟨start, c, behind, by rw [heq, List.append_assoc]; rfl, rfl⟩)
      rw [State.run_append]
      exact hvisit
  · rintro ⟨hplain, hfinal, hcloses⟩
    refine ⟨hplain, hfinal, ?_⟩
    intro index v hv
    obtain ⟨before, c, behind, rfl, rfl⟩ := mem_trace.1 hv
    have hbefore := hcloses (before ++ [c]) behind (by simp)
    rw [State.run_append] at hbefore
    exact hbefore

lemma Plain.of_append {s : State} (h : Plain s (text ++ more)) :
    Plain (s.run text) more := by
  induction text generalizing s with
  | nil => exact h
  | cons c rest ih => exact ih h.2

/-- What stands behind a place in code is plain as it would be alone. -/
lemma Plain.of_code (h : Plain {} (text ++ more)) (hcode : (State.run {} text).IsCode) :
    Plain {} more := by
  have hsuffix := h.of_append
  rwa [← State.raise_empty hcode, plain_raise] at hsuffix

lemma Plain.front {s : State} (h : Plain s (text ++ more)) : Plain s text := by
  induction text generalizing s with
  | nil => trivial
  | cons c rest ih =>
    refine ⟨fun hquote => ?_, ih h.2⟩
    have hc := h.1 hquote
    rw [commentLength_eq_zero_iff] at hc ⊢
    rintro ⟨hslash, hhead⟩
    cases rest with
    | nil => simp at hhead
    | cons d rest => exact hc ⟨hslash, hhead⟩

/-- A plain text goes on plainly behind its beginning, if no slash ends that in code. -/
lemma Plain.join {s : State} {middle : List Char} (h : Plain s (text ++ middle))
    (hslash : ∀ before, text = before ++ ['/'] → (s.run before).quote ≠ none)
    (hmore : Plain (s.run text) more) : Plain s (text ++ more) :=
  h.front.append hmore fun before heq hcode => absurd hcode (hslash before heq)

/-! ## Regions -/

/-- No depth is negative where all are zero. -/
lemma State.unbalanced_of_atTopLevel {s : State} (h : s.atTopLevel = true) :
    s.unbalanced = false := by
  simp only [State.atTopLevel, State.isLevel, Bool.and_eq_true, beq_iff_eq] at h
  rw [State.unbalanced_eq_false_iff]
  omega

/-- A region ends with its closer at the top level, if nothing settles it before. -/
lemma regionLength?_eq_some_iff {opener closer : Char} (hopener : closer? opener = some closer)
    {rest : List Char} {n : ℕ} :
    regionLength? (opener :: rest) = some n ↔
      ∃ front v behind, walk (opener :: rest) = front ++ v :: behind ∧ n = v.index + 1 ∧
        v.outside = true ∧ v.char = closer ∧ v.after.atTopLevel = true ∧
        ∀ w ∈ front, settles closer w = false := by
  unfold regionLength?
  simp only [List.head?_cons, Option.bind_eq_bind, Option.bind_some, hopener]
  constructor
  · intro h
    split at h
    · rename_i v hfind
      split at h
      · exact absurd h (by simp)
      · rename_i hbalanced
        -- what settles a region first is either a negative depth, which gives none, or its end
        obtain ⟨hsettles, front, behind, hwalk, hfront⟩ := List.find?_eq_some_iff_append.1 hfind
        unfold settles at hsettles
        rw [Bool.not_eq_true] at hbalanced
        rw [hbalanced, Bool.false_or, Bool.and_eq_true, Bool.and_eq_true, beq_iff_eq] at hsettles
        obtain ⟨hout, hchar, htop⟩ := hsettles
        refine ⟨front, v, behind, hwalk, (Option.some.inj h).symm, hout, hchar, htop, ?_⟩
        exact fun w hw => by simpa using hfront w hw
    · exact absurd h (by simp)
  · rintro ⟨front, v, behind, hwalk, rfl, hout, hchar, htop, hfront⟩
    have hsettles : settles closer v = true := by
      unfold settles
      rw [hout, hchar, htop, beq_self_eq_true, Bool.and_self, Bool.or_true, Bool.and_self]
    have hfind : (walk (opener :: rest)).find? (settles closer) = some v := by
      rw [hwalk, List.find?_append, List.find?_eq_none.2 (by simpa using hfront), Option.none_or,
        List.find?_cons, hsettles]
    rw [hfind]
    simp only [State.unbalanced_of_atTopLevel htop, Bool.false_eq_true, if_false]

/-- Only a bracket opens a region. -/
lemma exists_opener_of_regionLength? {n : ℕ} (h : regionLength? text = some n) :
    ∃ opener closer rest, text = opener :: rest ∧ closer? opener = some closer := by
  unfold regionLength? at h
  split at h
  · exact absurd h (by simp)
  · rename_i closer hopener
    obtain ⟨opener, hhead, hcloser⟩ := Option.bind_eq_some_iff.1 hopener
    obtain ⟨rest, rfl⟩ := List.head?_eq_some_iff.1 hhead
    exact ⟨opener, closer, rest, rfl, hcloser⟩

/-- A region ends with its closer, and the scan is back where it began. -/
lemma regionLength?_eq_some {opener closer : Char} (hopener : closer? opener = some closer)
    {rest : List Char} (hplain : Plain {} (opener :: rest)) {n : ℕ}
    (h : regionLength? (opener :: rest) = some n) :
    ∃ inner behind, rest = inner ++ closer :: behind ∧ n = inner.length + 2 ∧
      State.run {} (opener :: (inner ++ [closer])) = {} := by
  obtain ⟨front, v, behind, hwalk, rfl, -, hchar, htop, -⟩ :=
    (regionLength?_eq_some_iff hopener).1 h
  have hv : v ∈ trace {} 0 (opener :: rest) := by
    rw [← visits_of_plain hplain, show visits {} 0 (opener :: rest) = _ from hwalk]
    exact List.mem_append_right _ List.mem_cons_self
  obtain ⟨before, c, behind, heq, rfl⟩ := mem_trace.1 hv
  obtain rfl : c = closer := hchar
  have hafter : (visit (State.run {} before) (0 + before.length) c).after
      = State.run {} (before ++ [c]) := by
    rw [State.run_append]
    rfl
  rw [hafter, State.atTopLevel, Bool.and_eq_true, Option.isNone_iff_eq_none] at htop
  -- on the level and outside strings there is only the state of the beginning
  have hempty := State.eq_empty (State.isCode_run htop.1) htop.2
  cases before with
  | nil => exact absurd (List.cons.inj heq).1 (bracket_chars hopener).2.2.2.2
  | cons d inner =>
    obtain ⟨rfl, rfl⟩ := List.cons.inj heq
    refine ⟨inner, behind, rfl, ?_, hempty⟩
    show 0 + (opener :: inner).length + 1 = _
    rw [List.length_cons]
    omega

/-- The region is the same with more behind, if what comes first there settles it otherwise. -/
lemma regionLength?_append (hplain : Plain {} text) {c : Char} {rest : List Char}
    (hcode : (State.run {} text).quote = none) (hquote : isQuote c = false) (hslash : c ≠ '/')
    (hstar : c ≠ '*') (hc : ((State.run {} text).advance c).unbalanced = true) (hne : text ≠ []) :
    regionLength? (text ++ c :: rest) = regionLength? text := by
  have hfollows : Follows (c :: rest) := ⟨by simpa using hslash, by simpa using hstar⟩
  have hcomment : commentLength (c :: rest) = 0 := by
    rw [commentLength_eq_zero_iff]
    exact fun h => hslash h.1
  have hhead : (text ++ c :: rest).head? = text.head? := by
    cases text with
    | nil => exact absurd rfl hne
    | cons d ds => rfl
  unfold regionLength? walk
  rw [hhead, visits_append hplain (hfollows.joins _), visits_cons fun _ => hcomment,
    visits_of_plain hplain]
  cases (text.head? >>= closer?) with
  | none => rfl
  | some closer =>
    simp only [List.find?_append]
    -- if nothing settles the region in the text, the character behind it does, with a depth below
    -- zero
    cases hfind : (trace {} 0 text).find? (settles closer) with
    | some v => rfl
    | none =>
      have hsettles : settles closer (visit (State.run {} text) (0 + text.length) c) = true := by
        show ((State.run {} text).quote.isNone && !isQuote c &&
          (((State.run {} text).advance c).unbalanced || _)) = true
        rw [hcode, hquote, hc]
        rfl
      rw [Option.none_or, List.find?_cons, hsettles]
      show (if ((State.run {} text).advance c).unbalanced = true then none else _) = _
      rw [if_pos hc]

namespace Balanced

/-- A closer behind a balanced text settles no region inside. -/
lemma regionLength?_closer (h : Balanced text) {before behind rest : List Char}
    {opener closer : Char} (heq : text = before ++ behind) (hne : behind ≠ [])
    (hcode : (State.run {} before).quote = none) (hcloser : closer? opener = some closer) :
    regionLength? (behind ++ closer :: rest) = regionLength? behind := by
  obtain ⟨hplain, hfinal, hcloses⟩ := balanced_iff.1 h
  obtain ⟨hquote, -, hslash, hstar, -⟩ := bracket_chars hcloser
  have hbase := State.unbalanced_eq_false_iff.1 (hcloses before behind heq)
  -- as seen from where the region opens, the text ends on the level or below
  have hraise : (State.run {} before).raise (State.run {} behind) = {} := by
    rw [← State.run_raise, State.raise_empty (State.isCode_run hcode), ← State.run_append, ← heq]
    exact hfinal
  have hquote' : (State.run {} behind).quote = none := congrArg State.quote hraise
  have hparen : (State.run {} before).paren + (State.run {} behind).paren = 0 :=
    congrArg State.paren hraise
  have hbrace : (State.run {} before).brace + (State.run {} behind).brace = 0 :=
    congrArg State.brace hraise
  have hbracket : (State.run {} before).bracket + (State.run {} behind).bracket = 0 :=
    congrArg State.bracket hraise
  have hbehind : Plain {} behind := by
    rw [heq] at hplain
    exact hplain.of_code (State.isCode_run hcode)
  refine regionLength?_append hbehind hquote' hquote hslash hstar ?_ hne
  exact State.unbalanced_closer hcloser hquote' (by omega) (by omega) (by omega)

/-- What is cut out from a place in code leaves a balanced text, if it leads the scan back to where
it was and no slash stands before it. -/
lemma cut {middle behind : List Char} (h : Balanced (text ++ (middle ++ behind)))
    (hcode : (State.run {} text).quote = none)
    (hmiddle : State.run (State.run {} text) middle = State.run {} text)
    (hslash : ∀ before, text = before ++ ['/'] → (State.run {} before).quote ≠ none) :
    Balanced (text ++ behind) := by
  obtain ⟨hplain, hfinal, hcloses⟩ := balanced_iff.1 h
  refine balanced_iff.2 ⟨hplain.join hslash ?_, ?_, ?_⟩
  · rw [← hmiddle, ← State.run_append]
    rw [← List.append_assoc] at hplain
    exact hplain.of_append
  · rw [State.run_append, State.run_append, hmiddle] at hfinal
    rw [State.run_append]
    exact hfinal
  · intro before rest heq
    rcases List.append_eq_append_iff.1 heq with ⟨start, rfl, rfl⟩ | ⟨start, rfl, rfl⟩
    · have hstart := hcloses (text ++ (middle ++ start)) rest (by simp)
      rw [State.run_append, State.run_append, hmiddle] at hstart
      rw [State.run_append]
      exact hstart
    · exact hcloses before (start ++ (middle ++ behind)) (by simp)

end Balanced

end SlideContract.Scan
