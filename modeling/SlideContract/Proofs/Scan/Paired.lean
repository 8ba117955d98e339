import SlideContract.Proofs.Scan.Code

/-!
# Texts with paired brackets

The brackets of a text are paired if each closer in code closes the bracket that was opened last,
and none stays open. Depths alone do not say so: in `([)]` they come back to zero as well. From a
bracket of such a text on, its region closes before the text ends, so that nothing behind the text
takes part in it.

* `Moves.of_awaited?`: how the depths move with the brackets that are open;
* `Rest.exists_region`: the region of a bracket closes inside the text;
* `Rest.regionLength?_append`: what stands behind the text does not matter for that region;
* `neutral_cut`: what can be cut out so that the brackets stay paired.
-/

namespace SlideContract.Scan

variable {s : State} {text more : List Char} {index : ℕ} {v : Visit}

/-! ## Brackets that are open -/

/-- The closing brackets. -/
def isCloser (c : Char) : Bool := c == ')' || c == '\x7d' || c == ']'

/-- The closers that are awaited behind one more character of code, the next one first: an opening
bracket awaits its closer, and a closer has to be the one that is awaited next. -/
def await? (awaited : List Char) (c : Char) : Option (List Char) :=
  match closer? c with
  | some closer => some (closer :: awaited)
  | none =>
    if isCloser c then (if awaited.head? = some c then some awaited.tail else none)
    else some awaited

/-- The closers that are awaited behind one more visit; only those of code count. -/
def Visit.await? (awaited : List Char) (v : Visit) : Option (List Char) :=
  if v.outside then Scan.await? awaited v.char else some awaited

/-- The closers that are awaited behind some visits, if each closer among these was awaited. -/
def awaited? (awaited : List Char) (visited : List Visit) : Option (List Char) :=
  visited.foldlM Visit.await? awaited

/-- Every bracket in the code of the text is closed, and the last one opened is closed first. -/
def Paired (text : List Char) : Prop := awaited? [] (walk text) = some []

instance : DecidablePred Paired := fun text =>
  inferInstanceAs (Decidable (awaited? [] (walk text) = some []))

lemma awaited?_cons (awaited : List Char) (v : Visit) (rest : List Visit) :
    awaited? awaited (v :: rest) = (v.await? awaited).bind (awaited? · rest) :=
  List.foldlM_cons

lemma awaited?_append (awaited : List Char) (front rest : List Visit) :
    awaited? awaited (front ++ rest) = (awaited? awaited front).bind (awaited? · rest) :=
  List.foldlM_append

/-- How deep a walk stands and where it begins does not matter for its brackets. -/
lemma awaited?_map (base : State) (offset : ℕ) (awaited : List Char) (visited : List Visit) :
    awaited? awaited ((visited.map (·.raise base)).map (·.later offset))
      = awaited? awaited visited := by
  unfold awaited?
  rw [List.foldlM_map, List.foldlM_map]
  rfl

/-- A character of code opens a bracket, closes the one that was opened last, or is none. -/
lemma await?_eq_some_iff {awaited later : List Char} {c : Char} :
    await? awaited c = some later ↔
      (∃ closer, closer? c = some closer ∧ later = closer :: awaited) ∨
      (closer? c = none ∧ isCloser c = true ∧ awaited = c :: later) ∨
      (closer? c = none ∧ isCloser c = false ∧ awaited = later) := by
  unfold await?
  cases hopen : closer? c with
  | some closer =>
    simp only [Option.some.injEq, exists_eq_left', reduceCtorEq, false_and, or_false]
    exact eq_comm
  | none =>
    cases hclose : isCloser c with
    | false => simp
    | true =>
      cases awaited with
      | nil => simp
      | cons d awaited =>
        by_cases hd : d = c
        · simp [hd]
        · simp [hd]

/-- A character of code is the closer that was awaited, or leaves that closer awaited behind what it
does alone. -/
lemma await?_cases {inner outer later : List Char} {c d : Char}
    (h : await? (inner ++ c :: outer) d = some later) :
    (inner = [] ∧ d = c ∧ later = outer) ∨
      ∃ inner', later = inner' ++ c :: outer ∧ await? inner d = some inner' := by
  rcases await?_eq_some_iff.1 h with ⟨closer, hopen, rfl⟩ | ⟨hopen, hclose, heq⟩ |
    ⟨hopen, hclose, rfl⟩
  · exact Or.inr ⟨closer :: inner, rfl, await?_eq_some_iff.2 (Or.inl ⟨closer, hopen, rfl⟩)⟩
  · cases inner with
    | nil => exact Or.inl ⟨rfl, (List.cons.inj heq).1.symm, (List.cons.inj heq).2.symm⟩
    | cons e inner =>
      obtain ⟨rfl, rfl⟩ := List.cons.inj heq
      exact Or.inr ⟨inner, rfl, await?_eq_some_iff.2 (Or.inr (Or.inl ⟨hopen, hclose, rfl⟩))⟩
  · exact Or.inr ⟨inner, rfl, await?_eq_some_iff.2 (Or.inr (Or.inr ⟨hopen, hclose, rfl⟩))⟩

/-- The same for a visit; only code meets the closer. -/
lemma Visit.await?_cases {inner outer later : List Char} {c : Char}
    (h : v.await? (inner ++ c :: outer) = some later) :
    (v.outside = true ∧ inner = [] ∧ v.char = c ∧ later = outer) ∨
      ∃ inner', later = inner' ++ c :: outer ∧ v.await? inner = some inner' := by
  unfold Visit.await? at h ⊢
  split at h
  · rename_i hout
    rw [if_pos hout]
    exact (Scan.await?_cases h).imp_left fun hc => ⟨hout, hc⟩
  · rename_i hout
    rw [if_neg hout]
    exact Or.inr ⟨inner, (Option.some.inj h).symm, rfl⟩

/-- A closer that is awaited at first and not any more in the end was met, behind visits that left
no closer awaited in front of it. -/
lemma exists_of_awaited? {inner outer : List Char} {c : Char} {visited : List Visit}
    (h : awaited? (inner ++ c :: outer) visited = some []) :
    ∃ front v rest, visited = front ++ v :: rest ∧ v.outside = true ∧ v.char = c ∧
      awaited? inner front = some [] := by
  induction visited generalizing inner with
  | nil => exact absurd (Option.some.inj h) (by simp)
  | cons w visited ih =>
    rw [awaited?_cons, Option.bind_eq_some_iff] at h
    obtain ⟨later, hw, hrest⟩ := h
    rcases Visit.await?_cases hw with ⟨hout, rfl, hchar, -⟩ | ⟨inner', rfl, hinner⟩
    · exact ⟨[], w, visited, rfl, hout, hchar, rfl⟩
    · obtain ⟨front, v, rest, rfl, hout, hchar, hfront⟩ := ih hrest
      exact ⟨w :: front, v, rest, rfl, hout, hchar, by rw [awaited?_cons, hinner]; exact hfront⟩

/-- Closers that are awaited further out do not matter for what is opened and closed further in. -/
lemma await?_deeper {awaited later : List Char} {c : Char} (h : await? awaited c = some later)
    (outer : List Char) : await? (awaited ++ outer) c = some (later ++ outer) := by
  rcases await?_eq_some_iff.1 h with ⟨closer, hopen, rfl⟩ | ⟨hopen, hclose, rfl⟩ |
    ⟨hopen, hclose, rfl⟩
  · exact await?_eq_some_iff.2 (Or.inl ⟨closer, hopen, rfl⟩)
  · exact await?_eq_some_iff.2 (Or.inr (Or.inl ⟨hopen, hclose, rfl⟩))
  · exact await?_eq_some_iff.2 (Or.inr (Or.inr ⟨hopen, hclose, rfl⟩))

lemma awaited?_deeper {awaited later : List Char} {visited : List Visit}
    (h : awaited? awaited visited = some later) (outer : List Char) :
    awaited? (awaited ++ outer) visited = some (later ++ outer) := by
  -- along the visits: each step looks at the top of the stack only
  induction visited generalizing awaited with
  | nil => rw [Option.some.inj (show some awaited = some later from h)]; rfl
  | cons v visited ih =>
    rw [awaited?_cons, Option.bind_eq_some_iff] at h
    obtain ⟨next, hnext, hrest⟩ := h
    have hdeeper : v.await? (awaited ++ outer) = some (next ++ outer) := by
      unfold Visit.await? at hnext ⊢
      split at hnext
      · rename_i hout
        rw [if_pos hout]
        exact await?_deeper hnext outer
      · rename_i hout
        rw [if_neg hout, Option.some.inj hnext]
    rw [awaited?_cons, hdeeper]
    exact ih hrest

/-- The depths of two states differ by the brackets that are open behind one and not behind the
other. -/
structure Moves (s t : State) (awaited later : List Char) : Prop where
  paren : t.paren + awaited.count ')' = s.paren + later.count ')'
  brace : t.brace + awaited.count '\x7d' = s.brace + later.count '\x7d'
  bracket : t.bracket + awaited.count ']' = s.bracket + later.count ']'

lemma Moves.trans {s t u : State} {awaited later last : List Char} (h : Moves s t awaited later)
    (h' : Moves t u later last) : Moves s u awaited last where
  paren := by have := h.paren; have := h'.paren; omega
  brace := by have := h.brace; have := h'.brace; omega
  bracket := by have := h.bracket; have := h'.bracket; omega

/-- In code two states with the same brackets open are the same. -/
lemma Moves.eq {s t : State} {awaited : List Char} (h : Moves s t awaited awaited) (hs : s.IsCode)
    (ht : t.IsCode) : t = s := by
  obtain ⟨paren, brace, bracket, quote, escaped⟩ := s
  obtain ⟨paren', brace', bracket', quote', escaped'⟩ := t
  obtain ⟨rfl, rfl⟩ := hs
  obtain ⟨rfl, rfl⟩ := ht
  obtain ⟨hparen, hbrace, hbracket⟩ := h
  simp only at hparen hbrace hbracket
  rw [State.mk.injEq]
  exact ⟨by omega, by omega, by omega, rfl, rfl⟩

/-- Brackets that are opened lead above the depths before. -/
lemma Moves.unbalanced {s t : State} {later : List Char} (h : Moves s t [] later)
    (hs : s.unbalanced = false) : t.unbalanced = false := by
  obtain ⟨hparen, hbrace, hbracket⟩ := h
  rw [State.unbalanced_eq_false_iff] at hs ⊢
  simp only [List.count_nil] at hparen hbrace hbracket
  omega

lemma Moves.isLevel {s t : State} {later : List Char} (h : Moves s t [] later)
    (hs : s.unbalanced = false) (hlevel : s.isLevel = false) : t.isLevel = false := by
  obtain ⟨hparen, hbrace, hbracket⟩ := h
  rw [State.unbalanced_eq_false_iff] at hs
  simp only [List.count_nil] at hparen hbrace hbracket
  simp only [State.isLevel, Bool.and_eq_false_iff, beq_eq_false_iff_ne] at hlevel ⊢
  omega

/-- Outside code no bracket counts. -/
lemma Moves.of_not_outside {awaited : List Char} {c : Char}
    (h : ¬ (visit s index c).outside = true) : Moves s (s.advance c) awaited awaited := by
  obtain ⟨paren, brace, bracket, quote, escaped⟩ := s
  cases quote with
  | some quote =>
    unfold State.advance State.advanceInString
    simp only
    split_ifs <;> exact ⟨rfl, rfl, rfl⟩
  | none =>
    have hquote : isQuote c = true := by simpa [visit] using h
    unfold State.advance State.advanceInCode
    simp only [hquote, if_true]
    exact ⟨rfl, rfl, rfl⟩

/-- A character of code moves the depths by the bracket that it opens or closes. -/
lemma Moves.of_code {awaited later : List Char} {c : Char} (hcode : s.quote = none)
    (hquote : isQuote c = false) (h : await? awaited c = some later) :
    Moves s (s.advance c) awaited later := by
  obtain ⟨paren, brace, bracket, quote, escaped⟩ := s
  subst hcode
  unfold State.advance State.advanceInCode
  simp only [hquote]
  -- each kind of bracket moves its own depth by one and the count of its closers on the stack as
  -- well
  rcases await?_eq_some_iff.1 h with ⟨closer, hopen, rfl⟩ | ⟨-, hclose, rfl⟩ | ⟨hopen, hclose, rfl⟩
  · unfold closer? at hopen
    split at hopen <;> cases hopen <;> constructor <;> simp <;> omega
  · simp only [isCloser, Bool.or_eq_true, beq_iff_eq, or_assoc] at hclose
    rcases hclose with rfl | rfl | rfl <;> constructor <;>
      simp +decide only [List.count_cons, if_true, if_false] <;>
      omega
  · have hne : c ≠ '(' ∧ c ≠ '\x7b' ∧ c ≠ '[' := by
      refine ⟨?_, ?_, ?_⟩ <;> (rintro rfl; exact absurd hopen (by decide))
    simp only [isCloser, Bool.or_eq_false_iff, beq_eq_false_iff_ne] at hclose
    constructor <;> simp [hclose, hne]

lemma Moves.of_visit {awaited later : List Char} {c : Char}
    (h : (visit s index c).await? awaited = some later) : Moves s (s.advance c) awaited later := by
  unfold Visit.await? at h
  by_cases hout : (visit s index c).outside = true
  · obtain ⟨hcode, hquote, -⟩ := quote_of_outside c hout
    rw [if_pos hout] at h
    exact .of_code hcode hquote h
  · rw [if_neg hout] at h
    obtain rfl := Option.some.inj h
    exact .of_not_outside hout

/-- The depths move with the brackets that are open. -/
lemma Moves.of_awaited? {awaited later : List Char}
    (h : awaited? awaited (visits s index text) = some later) :
    Moves s (s.run (shed s text)) awaited later := by
  -- by the walk's own recursion: a comment moves neither the depths nor the stack
  induction s, text using walk_induction generalizing index awaited with
  | nil s =>
    rw [visits] at h
    obtain rfl := Option.some.inj h
    rw [shed_nil]
    exact ⟨rfl, rfl, rfl⟩
  | visited s c text hc ih =>
    rw [visits_cons hc, awaited?_cons, Option.bind_eq_some_iff] at h
    obtain ⟨next, hnext, hrest⟩ := h
    rw [shed_cons hc, State.run_cons]
    exact (Moves.of_visit hnext).trans (ih hrest)
  | skipped s comment text hcode hne hcomment ih =>
    rw [visits_comment hcode hne hcomment] at h
    rw [shed_comment hcode hne hcomment]
    exact ih h

/-- Only code leads below the level, so that a walk that is never below it in code never is. -/
lemma unbalanced_of_outside (hs : s.unbalanced = false) {front rest : List Visit}
    (h : visits s index text = front ++ rest)
    (hfront : ∀ w ∈ front, w.outside = true → w.after.unbalanced = false) :
    ∀ w ∈ front, w.after.unbalanced = false := by
  -- by the walk's own recursion: in a string the depths stay, and in code the hypothesis speaks
  induction s, text using walk_induction generalizing index front with
  | nil s =>
    rw [visits, List.nil_eq, List.append_eq_nil_iff] at h
    rw [h.1]
    exact fun w hw => absurd hw List.not_mem_nil
  | visited s c text hc ih =>
    rw [visits_cons hc] at h
    cases front with
    | nil => exact fun w hw => absurd hw List.not_mem_nil
    | cons w front =>
      obtain ⟨rfl, hrest⟩ := List.cons.inj h
      have hafter : (s.advance c).unbalanced = false := by
        by_cases hout : (visit s index c).outside = true
        · exact hfront _ List.mem_cons_self hout
        · exact (@Moves.of_not_outside s index [] c hout).unbalanced hs
      intro w hw
      rcases List.mem_cons.1 hw with rfl | hw
      · exact hafter
      · exact ih hafter hrest (fun w hw => hfront w (List.mem_cons_of_mem _ hw)) w hw
  | skipped s comment text hcode hne hcomment ih =>
    rw [visits_comment hcode hne hcomment] at h
    exact ih hs h hfront

/-! ## Regions -/

section Regions

variable {opener closer : Char} (hopener : closer? opener = some closer)

include hopener

lemma await?_opener (awaited : List Char) :
    (visit {} 0 opener).await? awaited = some (closer :: awaited) := by
  have hout : (visit {} 0 opener).outside = true := by
    unfold closer? at hopener
    split at hopener <;> first | rfl | exact absurd hopener (by simp)
  unfold Visit.await?
  rw [if_pos hout]
  exact await?_eq_some_iff.2 (Or.inl ⟨closer, hopener, rfl⟩)

/-- Where all brackets opened behind an opener are closed, the scan stands as right behind it. -/
lemma run_of_awaited? {inner : List Char}
    (h : awaited? [] (visits (State.advance {} opener) index inner) = some [])
    (hquote : ((State.advance {} opener).run (shed (State.advance {} opener) inner)).quote = none) :
    (State.advance {} opener).run (shed (State.advance {} opener) inner)
      = State.advance {} opener := by
  refine (Moves.of_awaited? h).eq (bracket_states hopener).1 ?_
  have hrun : (State.advance {} opener).run (shed (State.advance {} opener) inner)
      = State.run {} (opener :: shed (State.advance {} opener) inner) := rfl
  rw [hrun] at hquote ⊢
  exact State.isCode_run hquote

/-- As long as each closer behind an opener closes a bracket that was opened there, none settles the
region of the opener. -/
lemma settles_of_awaited? {inner later : List Char}
    (h : awaited? [] (visits (State.advance {} opener) index inner) = some later) :
    ∀ v ∈ visits (State.advance {} opener) index inner, settles closer v = false := by
  intro v hv
  obtain ⟨-, hbalanced, hdeep, -⟩ := bracket_states hopener
  obtain ⟨front, rest, hsplit⟩ := List.append_of_mem hv
  obtain ⟨before, c, -, -, rfl, rfl, -⟩ := visits_eq_append_cons hsplit
  rw [hsplit, awaited?_append, Option.bind_eq_some_iff] at h
  obtain ⟨next, hnext, hrest⟩ := h
  rw [awaited?_cons, Option.bind_eq_some_iff] at hrest
  obtain ⟨awaited, hawaited, -⟩ := hrest
  -- up to here brackets were only opened, so that the scan stands above the level
  have hmoves := (Moves.of_awaited? hnext).trans (Moves.of_visit hawaited)
  have hunbalanced := hmoves.unbalanced hbalanced
  have hlevel := hmoves.isLevel hbalanced hdeep
  show (_ && ((State.advance _ c).unbalanced || (_ && (_ && (State.advance _ c).isLevel)))) = false
  rw [hunbalanced, hlevel]
  simp

lemma walk_opener (text : List Char) :
    walk (opener :: text) = visit {} 0 opener :: visits (State.advance {} opener) 1 text :=
  visits_cons (fun _ => commentLength_eq_zero_iff.2 fun hc => (bracket_chars hopener).2.1 hc.1) 0

/-- The region of a bracket ends with its closer where all brackets opened in between are closed. -/
lemma exists_inner {front rest : List Visit}
    (hvisits : visits (State.advance {} opener) 1 text = front ++ v :: rest)
    (hout : v.outside = true) (hchar : v.char = closer) (hfront : awaited? [] front = some []) :
    ∃ inner behind, text = inner ++ closer :: behind ∧ Paired inner ∧
      (State.run {} (shed {} inner)).quote = none ∧ v.index = inner.length + 1 ∧
      regionLength? (opener :: text) = some (inner.length + 2) := by
  have hcode := (bracket_states hopener).1
  have hwalk := walk_opener hopener text
  obtain ⟨inner, c, behind, rfl, rfl, rfl, rfl⟩ := visits_eq_append_cons hvisits
  obtain rfl : c = closer := hchar
  have hquote := (quote_of_outside c hout).1
  refine ⟨inner, behind, rfl, ?_, ?_, Nat.add_comm 1 _, ?_⟩
  · unfold Paired
    rw [visits_of_isCode hcode, awaited?_map] at hfront
    exact hfront
  · rw [shed_of_isCode hcode, ← State.raise_empty hcode, State.run_raise] at hquote
    exact hquote
  · rw [run_of_awaited? hopener hfront hquote] at hvisits
    rw [hvisits] at hwalk
    rw [regionLength?_of_walk hopener hwalk (settles_of_awaited? hopener hfront)]
    congr 1
    omega

end Regions

/-! ## What is left of a text -/

/-- What is left of a text with paired brackets from a place in code on: it ends in code, and closes
in order the brackets that it opens and those that were open. -/
structure Rest (text : List Char) : Prop where
  ends : EndsInCode text
  paired : ∃ awaited, awaited? awaited (walk text) = some []

namespace Rest

/-- Behind a character in code there is still such a text. -/
lemma drop (h : Rest text) (hv : v ∈ walk text) (hout : v.outside = true) :
    Rest (text.drop (v.index + 1)) := by
  obtain ⟨before, behind, hsplit, hindex, hwalk⟩ := walk_at_code hv hout
  have hdrop : text.drop (v.index + 1) = behind := by
    rw [hsplit, hindex, show before ++ v.char :: behind = (before ++ [v.char]) ++ behind by simp,
      ← List.length_singleton (a := v.char), ← List.length_append, List.drop_left]
  rw [hdrop]
  constructor
  · -- the semicolon behind the text is code behind `v` as well
    have hv' : v ∈ walk (text ++ [';']) := by
      rw [h.ends.walk_append ⟨by simp, by simp⟩]
      exact List.mem_append_left _ hv
    obtain ⟨before', behind', hsplit', hindex', hcode⟩ := codeOffsets_at_code hv' hout
    rw [hsplit, List.append_assoc, List.cons_append] at hsplit'
    obtain ⟨rfl, hrest⟩ := List.append_inj hsplit' (hindex.symm.trans hindex')
    obtain rfl := (List.cons.inj hrest).2
    have hends : text.length ∈ codeOffsets (text ++ [';']) := h.ends
    rw [hcode, hsplit, List.mem_append, List.mem_cons, List.length_append, List.length_cons]
      at hends
    rcases hends with hends | hends | hends
    · obtain ⟨w, hw, hlength⟩ := List.mem_map.1 hends
      have hlt := (index_of_mem_visits (List.mem_filter.1 hw).1).2
      omega
    · omega
    · obtain ⟨n, hn, hlength⟩ := List.mem_map.1 hends
      obtain rfl : n = behind.length := by omega
      exact hn
  · -- what is awaited at `v` is what the rest of the walk starts from
    obtain ⟨awaited, hpaired⟩ := h.paired
    rw [hwalk, awaited?_append, Option.bind_eq_some_iff] at hpaired
    obtain ⟨next, -, hpaired⟩ := hpaired
    rw [awaited?_cons, Option.bind_eq_some_iff] at hpaired
    obtain ⟨later, -, hpaired⟩ := hpaired
    exact ⟨later, by rwa [awaited?_map] at hpaired⟩

/-- Characters that leave the scan as it is can be taken from the front. -/
lemma of_still {front : List Char} (hfront : ∀ c ∈ front, IsStill c) (h : Rest (front ++ text)) :
    Rest text := by
  induction front with
  | nil => exact h
  | cons c front ih =>
    have hc := hfront c List.mem_cons_self
    have hv : visit {} 0 c ∈ walk (c :: (front ++ text)) := by
      unfold walk
      rw [visits_cons fun _ => hc.commentLength _]
      exact List.mem_cons_self
    exact ih (fun d hd => hfront d (List.mem_cons_of_mem _ hd)) (h.drop hv (hc.outside 0))

variable {opener closer : Char}

/-- The region of a bracket ends with the closer that is paired with it, before such a text ends. -/
lemma exists_region (hopener : closer? opener = some closer) (h : Rest (opener :: text)) :
    ∃ inner behind, text = inner ++ closer :: behind ∧ Paired inner ∧
      (State.run {} (shed {} inner)).quote = none ∧
      regionLength? (opener :: text) = some (inner.length + 2) := by
  obtain ⟨awaited, hpaired⟩ := h.paired
  rw [walk_opener hopener, awaited?_cons, await?_opener hopener] at hpaired
  obtain ⟨front, v, rest, hvisits, hout, hchar, hfront⟩ :=
    @exists_of_awaited? [] awaited closer _ hpaired
  obtain ⟨inner, behind, rfl, hinner, hquote, -, hregion⟩ :=
    exists_inner hopener hvisits hout hchar hfront
  exact ⟨inner, behind, rfl, hinner, hquote, hregion⟩

/-- The region of a bracket is the same with more behind the text. -/
lemma regionLength?_append (hopener : closer? opener = some closer) (h : Rest (opener :: text))
    (more : List Char) :
    regionLength? (opener :: (text ++ more)) = regionLength? (opener :: text) := by
  obtain ⟨inner, behind, -, -, -, hregion⟩ := h.exists_region hopener
  rw [hregion, ← List.cons_append]
  exact regionLength?_append_of_some hregion

end Rest

/-- A region ends behind a visit of code. -/
lemma exists_of_regionLength? {n : ℕ} (h : regionLength? text = some n) :
    ∃ v ∈ walk text, v.outside = true ∧ n = v.index + 1 := by
  obtain ⟨opener, closer, rest, rfl, hopener⟩ := exists_opener_of_regionLength? h
  obtain ⟨front, v, behind, hwalk, hn, hout, -⟩ := (regionLength?_eq_some_iff hopener).1 h
  refine ⟨v, ?_, hout, hn⟩
  rw [hwalk]
  exact List.mem_append_right _ List.mem_cons_self

/-! ## Brackets of plain texts -/

variable {front before call behind : List Char}

/-- The text closes the brackets that it opens and no others, whatever closers are awaited. -/
def Neutral (text : List Char) : Prop :=
  ∀ awaited, awaited? awaited (trace {} 0 text) = some awaited

/-- Where a text stands in code does not matter for its brackets. -/
lemma awaited?_trace (hs : s.IsCode) (index : ℕ) (text awaited : List Char) :
    awaited? awaited (trace s index text) = awaited? awaited (trace {} 0 text) := by
  rw [← Nat.add_zero index, trace_later, Balanced.trace_eq hs, awaited?_map]

lemma neutral_iff_paired (h : Plain {} text) : Neutral text ↔ Paired text := by
  unfold Paired walk
  rw [visits_of_plain h]
  constructor
  · exact fun hneutral => hneutral []
  · exact fun hpaired awaited => awaited?_deeper hpaired awaited

lemma neutral_append (hcode : (State.run {} front).IsCode) (h : Neutral front) :
    Neutral (front ++ text) ↔ Neutral text := by
  apply forall_congr'
  intro awaited
  rw [trace_append, awaited?_append, h awaited, Option.bind_some, awaited?_trace hcode]

/-- A text that is cut out, so that the scan goes on as before, takes no bracket of the rest. -/
lemma neutral_cut (hcode : (State.run {} before).IsCode)
    (hback : (State.run {} before).run call = State.run {} before) (h : Neutral call) :
    Neutral (before ++ (call ++ behind)) ↔ Neutral (before ++ behind) := by
  apply forall_congr'
  intro awaited
  have hcall : ∀ awaited, awaited? awaited (trace (State.run {} before) (0 + before.length) call)
      = some awaited := fun awaited => (awaited?_trace hcode _ _ _).trans (h awaited)
  rw [trace_append, trace_append, trace_append, hback]
  simp only [awaited?_append, hcall, Option.bind_some, awaited?_trace hcode]

lemma neutral_still (h : ∀ c ∈ text, IsStill c) : Neutral text := by
  intro awaited
  induction text with
  | nil => rfl
  | cons c rest ih =>
    obtain ⟨hadvance, -⟩ := h c List.mem_cons_self
    -- a character that leaves the scan as it is opens and closes nothing
    have hawait : (visit {} 0 c).await? awaited = some awaited := by
      unfold Visit.await?
      rw [if_pos ((h c List.mem_cons_self).outside 0)]
      refine await?_eq_some_iff.2 (Or.inr (Or.inr ⟨?_, ?_, rfl⟩))
      · rw [Option.eq_none_iff_forall_ne_some]
        intro closer hopen
        have hdeep := (bracket_states hopen).2.2.1
        rw [show State.advance {} (visit {} 0 c).char = {} from hadvance] at hdeep
        exact absurd hdeep (by decide)
      · rw [Bool.eq_false_iff]
        intro hcloser
        simp only [isCloser, Bool.or_eq_true, beq_iff_eq, or_assoc] at hcloser
        rcases hcloser with rfl | rfl | rfl <;> exact absurd hadvance (by decide)
    rw [trace, awaited?_cons, hawait, Option.bind_some, hadvance, awaited?_trace State.isCode_empty]
    exact ih fun d hd => h d (List.mem_cons_of_mem _ hd)

/-- Parentheses around a text that closes its brackets. -/
lemma neutral_parens (h : Neutral text) (hcode : (State.run {} text).quote = none) :
    Neutral ('(' :: (text ++ [')'])) := by
  intro awaited
  have hopen : (State.advance {} '(').IsCode := ⟨rfl, rfl⟩
  have hquote : ((State.advance {} '(').run text).quote = none := by
    rw [← State.raise_empty hopen, State.run_raise]
    exact hcode
  rw [trace, awaited?_cons, trace_append]
  show (awaited? (')' :: awaited) _) = _
  rw [awaited?_append, awaited?_trace hopen, h, Option.bind_some, trace, trace, awaited?_cons]
  have hlast : (visit ((State.advance {} '(').run text) (0 + 1 + text.length) ')').await?
      (')' :: awaited) = some awaited := by
    unfold Visit.await?
    rw [show (visit ((State.advance {} '(').run text) (0 + 1 + text.length) ')').outside = true by
      simp [visit, hquote, isQuote], if_pos rfl]
    exact await?_eq_some_iff.2 (Or.inr (Or.inl ⟨rfl, rfl, rfl⟩))
  rw [hlast]
  rfl

end SlideContract.Scan
