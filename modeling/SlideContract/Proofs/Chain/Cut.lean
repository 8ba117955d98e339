import Mathlib.Data.List.TakeWhile
import SlideContract.Chain.Removal
import SlideContract.Proofs.Chain.Parse
import SlideContract.Proofs.Scan.Region

/-!
# Cutting defaults

Where the calls of defaults stand in a text without comments, and what cutting one of them leaves.
In a nested text they are the same ones whether it stands alone or inside a bracket, and what is
left is nested again.

* `callFrom`, `firstCall?_eq`: the first call, found by going through the characters in turn;
* `callFrom_closer`: the calls inside a bracket are those of the text alone;
* `Nested.cut`: what cutting a call leaves is nested;
* `Nested.cutInduction`: induction along the calls that are cut.
-/

namespace SlideContract.Chain
open Scan Text

/-! ## Openings of calls -/

/-- The name of the calls that are cut. -/
def defaultName : List Char := "default".toList

/-- The text goes on with no name and no argument list, blanks aside. -/
def Quits (text : List Char) : Prop :=
  ∀ c ∈ (dropBlanks text).head?, isNameChar c = false ∧ c ≠ '('

lemma takeWhile_blanks {blanks rest : List Char} (h : Blanks blanks) (hrest : Starts rest) :
    (blanks ++ rest).takeWhile isBlank = blanks := by
  rw [List.takeWhile_append_of_pos h]
  cases rest with
  | nil => simp
  | cons c cs => simp [hrest c rfl]

lemma starts_paren (text : List Char) : Starts ('(' :: text) := starts_cons (by decide) text

variable {text more : List Char} {names : List (List Char)} {s : State}

/-- A call is opened by its name between blanks and a parenthesis. -/
lemma exists_of_callOpening? {n : ℕ} (h : callOpening? names ('.' :: text) = some n) :
    ∃ name ∈ names, ∃ blanks gap rest, Blanks blanks ∧ Blanks gap ∧
      text = blanks ++ (name ++ (gap ++ '(' :: rest)) ∧
      n = 1 + blanks.length + name.length + gap.length := by
  unfold callOpening? at h
  simp only [List.drop_one, List.tail_cons] at h
  obtain ⟨skipped, hskipped, h⟩ := List.exists_of_findSome?_eq_some h
  rw [List.mem_reverse, List.mem_range] at hskipped
  obtain ⟨name, hname, h⟩ := List.exists_of_findSome?_eq_some h
  rw [Option.bind_eq_bind, Option.bind_eq_some_iff] at h
  obtain ⟨rest, hrest, h⟩ := h
  split at h
  · rename_i hparen
    have hsplit := after?_eq_some_iff.1 hrest
    -- as many characters as the search skips are a beginning of the run of blanks
    have hblanks : Blanks (text.take skipped) := by
      have hfront : text.take skipped <+: text.takeWhile isBlank :=
        List.prefix_of_prefix_length_le (List.take_prefix _ _) (List.takeWhile_prefix _)
          (by rw [List.length_take]; omega)
      exact fun c hc => List.mem_takeWhile_imp (hfront.subset hc)
    have hlength : (text.take skipped).length = skipped := by
      have hle := (@List.takeWhile_prefix _ text isBlank).length_le
      rw [List.length_take]
      omega
    have hgap : Blanks (rest.takeWhile isBlank) := fun c hc => List.mem_takeWhile_imp hc
    have hbehind := @List.takeWhile_append_dropWhile _ isBlank rest
    have hdrop : rest.drop (rest.takeWhile isBlank).length = rest.dropWhile isBlank := by
      have hleft := @List.drop_left _ (rest.takeWhile isBlank) (rest.dropWhile isBlank)
      rw [hbehind] at hleft
      exact hleft
    rw [hdrop] at hparen
    obtain ⟨args, hargs⟩ : ∃ args, rest.dropWhile isBlank = '(' :: args := by
      cases hcases : rest.dropWhile isBlank with
      | nil => simp [hcases] at hparen
      | cons c cs =>
        rw [hcases, List.head?_cons, Option.some.injEq] at hparen
        exact ⟨cs, by rw [hparen]⟩
    refine ⟨name, hname, text.take skipped, rest.takeWhile isBlank, args, hblanks, hgap, ?_, ?_⟩
    · rw [← hargs, hbehind, ← hsplit, List.take_append_drop]
    · rw [hlength]
      exact (Option.some.inj h).symm
  · exact absurd h (by simp)

/-- A text is opened by one name at most, between the same blanks. -/
lemma opening_unique {name name' blanks blanks' gap gap' rest rest' : List Char}
    (hname : IsIdentifier name) (hname' : IsIdentifier name') (hblanks : Blanks blanks)
    (hblanks' : Blanks blanks') (hgap : Blanks gap) (hgap' : Blanks gap')
    (h : blanks ++ (name ++ (gap ++ '(' :: rest))
      = blanks' ++ (name' ++ (gap' ++ '(' :: rest'))) :
    blanks = blanks' ∧ name = name' ∧ gap = gap' ∧ rest = rest' := by
  -- blanks, name and blanks are read off the two spellings in turn
  have hfront := congrArg (List.takeWhile isBlank) h
  rw [takeWhile_blanks hblanks (hname.starts _),
    takeWhile_blanks hblanks' (hname'.starts _)] at hfront
  subst hfront
  have hread := congrArg identifier? (List.append_cancel_left h)
  rw [identifier?_append hname (endsName_append hgap (endsName_paren rest)),
    identifier?_append hname' (endsName_append hgap' (endsName_paren rest')),
    Option.some.injEq, Prod.mk.injEq] at hread
  obtain ⟨rfl, hbehind⟩ := hread
  have hmiddle := congrArg (List.takeWhile isBlank) hbehind
  rw [takeWhile_blanks hgap (starts_paren _), takeWhile_blanks hgap' (starts_paren _)] at hmiddle
  subst hmiddle
  exact ⟨rfl, rfl, rfl, (List.cons.inj (List.append_cancel_left hbehind)).2⟩

/-- What opens a call of one of some methods: the name of one of these, and a parenthesis. -/
lemma callOpening?_eq_some_iff (hnames : ∀ name ∈ names, IsIdentifier name) {n : ℕ} :
    callOpening? names ('.' :: text) = some n ↔
      ∃ name ∈ names, ∃ blanks gap rest, Blanks blanks ∧ Blanks gap ∧
        text = blanks ++ (name ++ (gap ++ '(' :: rest)) ∧
        n = 1 + blanks.length + name.length + gap.length := by
  constructor
  · exact exists_of_callOpening?
  · rintro ⟨name, hname, blanks, gap, rest, hblanks, hgap, rfl, rfl⟩
    have hsome : (callOpening? names ('.' :: (blanks ++ (name ++ (gap ++ '(' :: rest))))).isSome
        = true := by
      have htake := takeWhile_blanks hblanks ((hnames name hname).starts (gap ++ '(' :: rest))
      have hgap' := takeWhile_blanks hgap (starts_paren rest)
      have hafter : after? name (name ++ (gap ++ '(' :: rest)) = some (gap ++ '(' :: rest) :=
        after?_eq_some_iff.2 rfl
      unfold callOpening?
      rw [List.findSome?_isSome_iff]
      refine ⟨blanks.length, ?_, List.findSome?_isSome_iff.2 ⟨name, hname, ?_⟩⟩
      · rw [List.drop_one, List.tail_cons, htake, List.mem_reverse, List.mem_range]
        exact Nat.lt_succ_self _
      · simp only [List.drop_one, List.tail_cons, List.drop_left, hafter, hgap',
          Option.bind_eq_bind, Option.bind_some, List.head?_cons, if_true, Option.isSome_some]
    -- whatever opening is found is this one
    obtain ⟨n, hn⟩ := Option.isSome_iff_exists.1 hsome
    obtain ⟨name', hname', blanks', gap', rest', hblanks', hgap', heq, rfl⟩ :=
      exists_of_callOpening? hn
    obtain ⟨rfl, rfl, rfl, -⟩ := opening_unique (hnames name hname) (hnames name' hname') hblanks
      hblanks' hgap hgap' heq
    exact hn

/-- Where a call opens, the characters up to its parenthesis leave the scan as it is, and open the
call whatever its arguments are. -/
lemma exists_front_of_callOpening? (hnames : ∀ name ∈ names, IsIdentifier name) {n : ℕ}
    (h : callOpening? names ('.' :: text) = some n) :
    ∃ front args, text = front ++ '(' :: args ∧ n = front.length + 1 ∧ (∀ c ∈ front, IsStill c) ∧
      ∀ args, callOpening? names ('.' :: (front ++ '(' :: args)) = some n := by
  obtain ⟨name, hname, blanks, gap, args, hblanks, hgap, rfl, rfl⟩ := exists_of_callOpening? h
  refine ⟨blanks ++ (name ++ gap), args, by simp, ?_, ?_, fun args => ?_⟩
  · simp only [List.length_append]
    omega
  · intro c hc
    apply isStill_of_not_mem_marks
    rcases List.mem_append.1 hc with hc | hc
    · exact not_mem_marks_of_isBlank (hblanks c hc)
    rcases List.mem_append.1 hc with hc | hc
    · exact not_mem_marks_of_isNameChar ((hnames name hname).isNameChar c hc)
    · exact not_mem_marks_of_isBlank (hgap c hc)
  · exact (callOpening?_eq_some_iff hnames).2
      ⟨name, hname, blanks, gap, args, hblanks, hgap, by simp only [List.append_assoc], rfl⟩

lemma isIdentifier_defaultName : IsIdentifier defaultName := isIdentifier_of_letters (by decide)

/-- A default is opened by its name between blanks and a parenthesis. -/
lemma callOpening?_iff {n : ℕ} :
    callOpening? [defaultName] ('.' :: text) = some n ↔
      ∃ blanks gap rest, Blanks blanks ∧ Blanks gap ∧
        text = blanks ++ (defaultName ++ (gap ++ '(' :: rest)) ∧
        n = 1 + blanks.length + defaultName.length + gap.length := by
  rw [callOpening?_eq_some_iff (by simpa using isIdentifier_defaultName)]
  simp only [List.mem_singleton, exists_eq_left]

lemma quits_nil : Quits [] := fun c hc => absurd hc (by simp [dropBlanks])

lemma quits_of_isSeparator {c : Char} (h : isSeparator c = true)
    (hc : isBlank c = false ∧ c ≠ '(') (text : List Char) : Quits (c :: text) := by
  intro d hd
  rw [dropBlanks_of_starts (starts_cons hc.1 text)] at hd
  rw [← Option.some.inj (show some c = some d from hd)]
  exact ⟨isNameChar_of_isSeparator h, hc.2⟩

lemma quits_dot (text : List Char) : Quits ('.' :: text) :=
  quits_of_isSeparator (by decide) (by decide) text

lemma Quits.endsName (h : Quits text) : EndsName text := by
  intro c hc
  cases hblank : isBlank c with
  | true => exact isNameChar_of_isBlank hblank
  | false =>
    obtain ⟨rest, rfl⟩ := List.head?_eq_some_iff.1 hc
    exact (h c (by rw [dropBlanks_of_starts (starts_cons hblank rest)]; rfl)).1

/-- Blanks and names before a parenthesis go on with a name or the parenthesis. -/
lemma not_quits {front rest : List Char}
    (h : ∀ c ∈ front, isBlank c = true ∨ isNameChar c = true) :
    ¬ Quits (front ++ '(' :: rest) := by
  intro hquits
  -- along the front: its first character that is no blank belongs to a name, or is the
  -- parenthesis
  induction front with
  | nil =>
    have hparen := hquits '('
      (by rw [List.nil_append, dropBlanks_of_starts (starts_paren rest)]; rfl)
    exact hparen.2 rfl
  | cons c cs ih =>
    rcases h c List.mem_cons_self with hblank | hname
    · apply ih fun d hd => h d (List.mem_cons_of_mem _ hd)
      intro d hd
      have hdrop : dropBlanks (c :: cs ++ '(' :: rest) = dropBlanks (cs ++ '(' :: rest) :=
        @dropBlanks_append [c] (by simpa using hblank) (cs ++ '(' :: rest)
      apply hquits d
      rw [hdrop]
      exact hd
    · have hstarts : Starts (c :: cs ++ '(' :: rest) := starts_cons (isBlank_of_isNameChar hname) _
      have hchar := hquits c (by rw [dropBlanks_of_starts hstarts]; rfl)
      rw [hname] at hchar
      exact absurd hchar.1 (by decide)

/-- What quits opens no call together with what stands before it. -/
lemma callOpening?_append (hnames : ∀ name ∈ names, IsIdentifier name) (h : Quits more) :
    callOpening? names ('.' :: (text ++ more)) = callOpening? names ('.' :: text) := by
  apply Option.ext
  intro n
  rw [callOpening?_eq_some_iff hnames, callOpening?_eq_some_iff hnames]
  constructor
  · rintro ⟨name, hname, blanks, gap, rest, hblanks, hgap, heq, rfl⟩
    have hfront : ∀ c ∈ blanks ++ (name ++ gap), isBlank c = true ∨ isNameChar c = true := by
      intro c hc
      rcases List.mem_append.1 hc with hc | hc
      · exact Or.inl (hblanks c hc)
      rcases List.mem_append.1 hc with hc | hc
      · exact Or.inr ((hnames name hname).isNameChar c hc)
      · exact Or.inl (hgap c hc)
    have hwhole : text ++ more = (blanks ++ (name ++ gap)) ++ '(' :: rest := by
      rw [heq]
      simp only [List.append_assoc]
    -- the opening would run on into what quits, or it lies in front of that
    rcases List.append_eq_append_iff.1 hwhole with ⟨middle, hmiddle, hmore⟩ | ⟨middle, rfl, hrest⟩
    · rw [hmore] at h
      refine absurd h (not_quits fun c hc => hfront c ?_)
      rw [hmiddle]
      exact List.mem_append_right _ hc
    · cases middle with
      | nil =>
        rw [List.nil_append] at hrest
        rw [← hrest] at h
        exact absurd h (@not_quits [] _ (by simp))
      | cons c middle =>
        obtain ⟨rfl, rfl⟩ := List.cons.inj hrest
        exact ⟨name, hname, blanks, gap, middle, hblanks, hgap, by simp only [List.append_assoc],
          rfl⟩
  · rintro ⟨name, hname, blanks, gap, rest, hblanks, hgap, rfl, rfl⟩
    exact ⟨name, hname, blanks, gap, rest ++ more, hblanks, hgap, by simp [List.append_assoc], rfl⟩

/-! ## Calls in turn -/

/-- What is found, with its place counted from `n` characters before. -/
def later (n : ℕ) (found : Option (ℕ × ℕ)) : Option (ℕ × ℕ) :=
  found.map fun (start, length) => (n + start, length)

@[simp] lemma later_none (n : ℕ) : later n none = none := rfl

@[simp] lemma later_some (n start length : ℕ) :
    later n (some (start, length)) = some (n + start, length) := rfl

@[simp] lemma later_zero (found : Option (ℕ × ℕ)) : later 0 found = found := by
  cases found with
  | none => rfl
  | some found => simp [later]

lemma later_later (m n : ℕ) (found : Option (ℕ × ℕ)) :
    later m (later n found) = later (m + n) found := by
  cases found with
  | none => rfl
  | some found => simp [later, Nat.add_assoc]

lemma later_or (n : ℕ) (found other : Option (ℕ × ℕ)) :
    later n (found.or other) = (later n found).or (later n other) := by
  cases found <;> rfl

/-- The place and the length of the first call, found by going through the characters in turn. -/
def callFrom (names : List (List Char)) : State → List Char → Option (ℕ × ℕ)
  | _, [] => none
  | s, c :: rest =>
    match if s.quote = none ∧ c = '.' then callLength? names (c :: rest) else none with
    | some n => some (0, n)
    | none => later 1 (callFrom names (s.advance c) rest)

lemma callFrom_cons {c : Char} (h : c ≠ '.') (rest : List Char) :
    callFrom names s (c :: rest) = later 1 (callFrom names (s.advance c) rest) := by
  rw [callFrom, if_neg fun hdot => h hdot.2]

lemma callFrom_eq_some {start n : ℕ} (h : callFrom names s text = some (start, n)) :
    ∃ before behind, text = before ++ '.' :: behind ∧ (s.run before).quote = none ∧
      callLength? names ('.' :: behind) = some n ∧ before.length = start := by
  -- along the text: the call begins at its first character, or it is the first call of the rest
  induction text generalizing s start with
  | nil => exact absurd h (by simp [callFrom])
  | cons c rest ih =>
    rw [callFrom] at h
    split at h
    · rename_i n' hn
      obtain ⟨rfl, rfl⟩ := Prod.mk.inj (Option.some.inj h)
      split at hn
      · rename_i hdot
        obtain ⟨hquote, rfl⟩ := hdot
        exact ⟨[], rest, rfl, hquote, hn, rfl⟩
      · exact absurd hn (by simp)
    · obtain ⟨⟨place, length⟩, hfound, heq⟩ := Option.map_eq_some_iff.1 h
      obtain ⟨rfl, rfl⟩ := Prod.mk.inj heq
      obtain ⟨before, behind, rfl, hquote, hlength, rfl⟩ := ih hfound
      exact ⟨c :: before, behind, rfl, hquote, hlength, by rw [List.length_cons, Nat.add_comm]⟩

/-- There is no call exactly if none begins at a dot of code. -/
lemma callFrom_eq_none_iff : callFrom names s text = none ↔
    ∀ before behind, text = before ++ '.' :: behind → (s.run before).quote = none →
      callLength? names ('.' :: behind) = none := by
  constructor
  · rintro hnone before behind rfl hcode
    induction before generalizing s with
    | nil =>
      rw [List.nil_append, callFrom, if_pos ⟨hcode, rfl⟩] at hnone
      split at hnone
      · exact absurd hnone (by simp)
      · assumption
    | cons c before ih =>
      rw [List.cons_append, callFrom] at hnone
      split at hnone
      · exact absurd hnone (by simp)
      · exact ih (Option.map_eq_none_iff.1 hnone) hcode
  · intro h
    rw [Option.eq_none_iff_forall_ne_some]
    intro found hfound
    obtain ⟨before, behind, heq, hcode, hlength, -⟩ := callFrom_eq_some (n := found.2) hfound
    exact absurd ((h before behind heq hcode).symm.trans hlength) (by simp)

/-- The call that begins where a text is visited. -/
def callAt (names : List (List Char)) (text : List Char) (v : Visit) : Option (ℕ × ℕ) :=
  if v.outside && v.char == '.' then
    (callLength? names (text.drop v.index)).map fun length => (v.index, length)
  else none

/-- The first call that begins in a text whose characters are gone through in turn, if one does:
what stands before the text has been gone through, what stands behind it may be part of the call. -/
lemma findSome?_callAt (before more : List Char) :
    (trace s before.length text).findSome? (callAt names (before ++ (text ++ more)))
      = later before.length
        ((callFrom names s (text ++ more)).filter fun found => found.1 < text.length) := by
  induction text generalizing before s with
  | nil =>
    have hnone : (callFrom names s ([] ++ more)).filter
        (fun found => found.1 < ([] : List Char).length) = none := by
      cases callFrom names s ([] ++ more) <;> simp [Option.filter]
    rw [hnone]
    rfl
  | cons c rest ih =>
    have hrest := ih (s := s.advance c) (before ++ [c])
    rw [List.length_append, List.length_singleton, List.append_assoc,
      List.singleton_append] at hrest
    have hdrop : (before ++ (c :: (rest ++ more))).drop before.length = c :: (rest ++ more) :=
      List.drop_left
    -- a place in the rest counts one more in the text
    have hplace : ∀ found : Option (ℕ × ℕ),
        (later 1 found).filter (fun found => found.1 < (c :: rest).length)
          = later 1 (found.filter fun found => found.1 < rest.length) := by
      intro found
      cases found with
      | none => rfl
      | some found =>
        simp only [later, Option.map_some, Option.filter, List.length_cons, Nat.add_comm 1,
          Nat.add_lt_add_iff_right]
        split <;> rfl
    rw [trace, List.findSome?_cons, List.cons_append, hrest, callFrom]
    by_cases hdot : s.quote = none ∧ c = '.'
    · obtain ⟨hquote, rfl⟩ := hdot
      simp only [callAt, visit, hdrop, hquote, and_self, if_true]
      cases callLength? names ('.' :: (rest ++ more)) with
      | some n => simp [Option.filter, isQuote, later]
      | none => exact (later_later _ _ _).symm.trans (congrArg _ (hplace _).symm)
    · have hout : (s.quote.isNone && !isQuote c && (c == '.')) = false := by
        by_contra hcontra
        rw [Bool.not_eq_false, Bool.and_eq_true, Bool.and_eq_true, beq_iff_eq,
          Option.isNone_iff_eq_none] at hcontra
        exact hdot ⟨hcontra.1.1, hcontra.2⟩
      simp only [callAt, visit, hout, if_neg hdot, Bool.false_eq_true, if_false]
      exact (later_later _ _ _).symm.trans (congrArg _ (hplace _).symm)

/-- In a text without comments every character is gone through. -/
lemma firstCall?_eq (h : Plain {} text) : firstCall? names text = callFrom names {} text := by
  have hturn := @findSome?_callAt text names {} [] []
  rw [List.nil_append, List.append_nil, List.length_nil, later_zero] at hturn
  show (walk text).findSome? (callAt names text) = _
  unfold walk
  rw [visits_of_plain h, hturn]
  cases hfound : callFrom names {} text with
  | none => rfl
  | some found =>
    obtain ⟨before, behind, rfl, -, -, hlength⟩ := callFrom_eq_some (n := found.2) hfound
    have hless : found.1 < (before ++ '.' :: behind).length := by
      rw [← hlength, List.length_append, List.length_cons]
      omega
    exact Option.filter_some_pos (by simpa using hless)

/-- The calls that begin in a beginning of a text without comments come first, whatever stands
behind it. -/
lemma firstCall?_append (h : Plain {} text) (hjoins : Joins text more) {start n : ℕ}
    (hfound : callFrom names {} (text ++ more) = some (start, n)) (hstart : start < text.length) :
    firstCall? names (text ++ more) = some (start, n) := by
  have hturn := @findSome?_callAt text names {} [] more
  rw [List.nil_append, List.length_nil, later_zero, hfound,
    Option.filter_some_pos (by simpa using hstart)] at hturn
  show (walk (text ++ more)).findSome? (callAt names (text ++ more)) = _
  unfold walk
  rw [visits_append h hjoins, List.findSome?_append, hturn]
  rfl

/-- If no call reaches from a text into what stands behind it, the calls of the text come first. -/
lemma callFrom_append (h : ∀ before behind, text = before ++ '.' :: behind →
      (s.run before).quote = none →
      callLength? names ('.' :: (behind ++ more)) = callLength? names ('.' :: behind)) :
    callFrom names s (text ++ more)
      = (callFrom names s text).or (later text.length (callFrom names (s.run text) more)) := by
  induction text generalizing s with
  | nil => simp [callFrom]
  | cons c rest ih =>
    have hrest := ih (s := s.advance c) fun before behind heq hquote =>
      h (c :: before) behind (by rw [heq]; rfl) hquote
    -- what begins at this character is settled within the text
    have hhead : (if s.quote = none ∧ c = '.' then callLength? names (c :: (rest ++ more))
        else none)
        = if s.quote = none ∧ c = '.' then callLength? names (c :: rest) else none := by
      split
      · rename_i hdot
        obtain ⟨hquote, rfl⟩ := hdot
        exact h [] rest rfl hquote
      · rfl
    rw [List.cons_append, callFrom, callFrom, hhead, hrest, State.run_cons]
    split
    · rfl
    · rw [later_or, later_later, List.length_cons, Nat.add_comm 1]

/-- Without a dot of code there is no call. -/
lemma callFrom_of_dotless (h : ∀ before behind, text = before ++ '.' :: behind →
      (s.run before).quote ≠ none) (more : List Char) :
    callFrom names s (text ++ more) = later text.length (callFrom names (s.run text) more) := by
  have hnone : callFrom names s text = none :=
    callFrom_eq_none_iff.2 fun before behind heq hcode => absurd hcode (h before behind heq)
  rw [callFrom_append fun before behind heq hcode => absurd hcode (h before behind heq), hnone,
    Option.none_or]

/-- Without a dot there is no call. -/
lemma callFrom_of_forall (h : ∀ c ∈ text, c ≠ '.') (more : List Char) :
    callFrom names s (text ++ more) = later text.length (callFrom names (s.run text) more) :=
  callFrom_of_dotless (fun before behind heq => absurd rfl (h '.' (by rw [heq]; simp))) more

/-- Only strings matter, not the depths. -/
lemma callFrom_raise (base : State) :
    callFrom names (base.raise s) text = callFrom names s text := by
  induction text generalizing s with
  | nil => rfl
  | cons c rest ih =>
    rw [callFrom, callFrom, State.advance_raise, ih]
    rfl

/-! ## Nested texts -/

/-- A balanced text in whose code no slash stands before a dot, so that no comment opens where a
call is cut out. -/
structure Nested (text : List Char) : Prop where
  balanced : Balanced text
  slash : ∀ before behind,
    text = before ++ '/' :: '.' :: behind → (State.run {} before).quote ≠ none

/-- What is cut as a default: its dot, its name and its argument list. -/
structure IsDefault (call : List Char) : Prop where
  dot : call.head? = some '.'
  run : ∀ s : State, s.IsCode → s.run call = s

lemma quits_closer {opener closer : Char} (h : closer? opener = some closer) (rest : List Char) :
    Quits (closer :: rest) := by
  have hchar : isSeparator closer = true ∧ isBlank closer = false ∧ closer ≠ '(' := by
    unfold closer? at h
    split at h <;> first | (cases h; decide) | exact absurd h (by simp)
  exact quits_of_isSeparator hchar.1 hchar.2 rest

/-- A default opens behind characters that leave the scan where it is. -/
lemma exists_front_of_default {n : ℕ} (h : callOpening? [defaultName] ('.' :: text) = some n) :
    ∃ front rest, '.' :: text = front ++ '(' :: rest ∧ n = front.length ∧ Balanced front ∧
      front.head? = some '.' := by
  obtain ⟨front, rest, rfl, rfl, hstill, -⟩ :=
    exists_front_of_callOpening? (by simpa using isIdentifier_defaultName) h
  exact ⟨'.' :: front, rest, rfl, rfl, .cons rfl (by decide) (.of_still hstill), rfl⟩

/-- The call of a default with the region of its arguments. -/
lemma callLength?_eq_some (hplain : Plain {} ('.' :: text)) {n : ℕ}
    (h : callLength? [defaultName] ('.' :: text) = some n) :
    ∃ call behind, '.' :: text = call ++ behind ∧ call.length = n ∧ IsDefault call := by
  unfold callLength? at h
  simp only [Option.bind_eq_bind, Option.bind_eq_some_iff, Option.pure_def, Option.some.injEq] at h
  obtain ⟨opening, hopening, region, hregion, rfl⟩ := h
  obtain ⟨front, rest, hwhole, rfl, hfront, hdot⟩ := exists_front_of_default hopening
  rw [hwhole] at hplain
  have hrest := hplain.of_append
  rw [hfront.final] at hrest
  rw [hwhole, List.drop_left] at hregion
  obtain ⟨inner, behind, rfl, rfl, hrun⟩ :=
    regionLength?_eq_some (show closer? '(' = some ')' from rfl) hrest hregion
  -- the call is the opening with its region, over which the scan comes back to where it was
  refine ⟨front ++ '(' :: (inner ++ [')']), behind, ?_, ?_, ?_, ?_⟩
  · rw [hwhole]
    simp
  · simp
  · rw [List.head?_append, hdot]
    rfl
  · intro s hs
    rw [State.run_append, hfront.run_eq hs]
    have hraise := State.run_raise s {} ('(' :: (inner ++ [')']))
    rw [hrun, State.raise_empty hs] at hraise
    exact hraise

/-- The closer of a bracket around a balanced text changes no call inside. -/
lemma callLength?_closer (h : Balanced text) {before behind rest : List Char}
    {opener closer : Char} (heq : text = before ++ '.' :: behind)
    (hcode : (State.run {} before).quote = none) (hcloser : closer? opener = some closer) :
    callLength? [defaultName] ('.' :: (behind ++ closer :: rest))
      = callLength? [defaultName] ('.' :: behind) := by
  unfold callLength?
  rw [callOpening?_append (by simpa using isIdentifier_defaultName) (quits_closer hcloser rest)]
  cases hopening : callOpening? [defaultName] ('.' :: behind) with
  | none => rfl
  | some opening =>
    obtain ⟨front, args, hwhole, rfl, hfront, -⟩ := exists_front_of_default hopening
    have hsplit : text = (before ++ front) ++ '(' :: args := by
      rw [heq, hwhole, List.append_assoc]
    have hcode' : (State.run {} (before ++ front)).quote = none := by
      rw [State.run_append, hfront.run_eq (State.isCode_run hcode)]
      exact hcode
    have hregion := @Balanced.regionLength?_closer _ h _ _ rest _ _ hsplit (by simp) hcode' hcloser
    rw [← List.cons_append, hwhole]
    simp only [Option.bind_eq_bind, Option.bind_some, List.append_assoc, List.drop_left, hregion]

/-- The calls of a balanced text inside a bracket are those of the text alone, and then those that
come behind. -/
lemma callFrom_closer (h : Balanced text) {opener closer : Char} {rest : List Char}
    (hcloser : closer? opener = some closer) (hs : s.IsCode) :
    callFrom [defaultName] s (text ++ closer :: rest) = (callFrom [defaultName] {} text).or
      (later text.length (callFrom [defaultName] s (closer :: rest))) := by
  have hraise : callFrom [defaultName] s text = callFrom [defaultName] {} text := by
    conv_lhs => rw [← State.raise_empty hs]
    exact callFrom_raise s
  rw [callFrom_append, hraise, h.run_eq hs]
  intro before behind heq hquote
  apply callLength?_closer h heq _ hcloser
  rw [← State.raise_empty hs, State.run_raise] at hquote
  exact hquote

namespace Nested

lemma nil : Nested [] where
  balanced := .nil
  slash before behind h := by
    rw [List.nil_eq_append_iff] at h
    exact absurd h.2 (by simp)

/-- A character in front that opens nothing. -/
lemma cons {c : Char} (hadvance : State.advance {} c = {}) (hslash : c ≠ '/') (h : Nested text) :
    Nested (c :: text) where
  balanced := .cons hadvance hslash h.balanced
  slash before behind heq := by
    cases before with
    | nil => exact absurd (List.cons.inj heq).1 hslash
    | cons d before =>
      obtain ⟨rfl, hrest⟩ := List.cons.inj heq
      rw [State.run_cons, hadvance]
      exact h.slash before behind hrest

lemma unmarked {front : List Char} (hfront : ∀ c ∈ front, c ∉ marks) (h : Nested text) :
    Nested (front ++ text) := by
  induction front with
  | nil => exact h
  | cons c rest ih =>
    have hmarks := hfront c List.mem_cons_self
    exact .cons (advance_of_not_mem hmarks) (ne_of_not_mem_marks hmarks (by decide))
      (ih fun d hd => hfront d (List.mem_cons_of_mem _ hd))

/-- Nested texts one after the other, if no slash stands before a dot where they meet. -/
lemma append (h : Nested text) (hmore : Nested more)
    (hmeet : text.getLast? = some '/' → more.head? ≠ some '.') (hfollows : Follows more) :
    Nested (text ++ more) where
  balanced := h.balanced.append hmore.balanced hfollows
  slash before behind heq := by
    -- a slash before a dot stands in one of the two texts, or the first ends and the second
    -- begins with them
    rcases List.append_eq_append_iff.1 heq with ⟨middle, rfl, hmiddle⟩ | ⟨middle, hfront, hmiddle⟩
    · rw [State.run_append, h.balanced.final]
      exact hmore.slash middle behind hmiddle
    · cases middle with
      | nil =>
        rw [List.append_nil] at hfront
        rw [← hfront, h.balanced.final]
        exact hmore.slash [] behind hmiddle.symm
      | cons c middle =>
        obtain ⟨rfl, hrest⟩ := List.cons.inj hmiddle
        cases middle with
        | nil =>
          have hdot : more.head? = some '.' := by
            rw [← show '.' :: behind = more from hrest]
            rfl
          exact absurd hdot (hmeet (by rw [hfront, List.getLast?_concat]))
        | cons d middle =>
          obtain ⟨rfl, rfl⟩ := List.cons.inj hrest
          exact h.slash before middle hfront

/-- A bracket around a nested text. -/
lemma bracket {opener closer : Char} (hcloser : closer? opener = some closer) (h : Nested text) :
    Nested (opener :: (text ++ [closer])) where
  balanced := .bracket hcloser h.balanced
  slash before behind heq := by
    obtain ⟨hcode, -, -, -⟩ := bracket_states hcloser
    cases before with
    | nil => exact absurd (List.cons.inj heq).1 (bracket_chars hcloser).2.1
    | cons d before =>
      obtain ⟨rfl, hrest⟩ := List.cons.inj heq
      rw [State.run_cons, ← State.raise_empty hcode, State.run_raise]
      -- a dot behind a slash stands inside the text, since the bracket ends with no dot
      rcases List.append_eq_append_iff.1 hrest with ⟨middle, rfl, hmiddle⟩ | ⟨middle, rfl, hmiddle⟩
      · have hlength := congrArg List.length hmiddle
        simp only [List.length_append, List.length_cons, List.length_nil] at hlength
        omega
      · cases middle with
        | nil =>
          have hlength := congrArg List.length hmiddle
          simp at hlength
        | cons c middle =>
          obtain ⟨rfl, hlast⟩ := List.cons.inj hmiddle
          cases middle with
          | nil =>
            have hdot : '.' = closer := (List.cons.inj hlast).1
            subst hdot
            unfold closer? at hcloser
            split at hcloser <;> simp at hcloser
          | cons d middle =>
            obtain ⟨rfl, -⟩ := List.cons.inj hlast
            exact h.slash before middle rfl

/-- The first call of a nested text can be cut out, and what is left is nested. -/
lemma cut (h : Nested text) {start n : ℕ}
    (hfound : callFrom [defaultName] {} text = some (start, n)) :
    ∃ before call behind, text = before ++ (call ++ behind) ∧ before.length = start ∧
      call.length = n ∧ call ≠ [] ∧ Nested (before ++ behind) := by
  obtain ⟨before, rest, rfl, hcode, hlength, rfl⟩ := callFrom_eq_some hfound
  have hstart := State.isCode_run hcode
  have hplain : Plain {} ('.' :: rest) := h.balanced.plain.of_code hstart
  obtain ⟨call, behind, hcall, rfl, hdefault⟩ := callLength?_eq_some hplain hlength
  have hhead := hdefault.dot
  obtain ⟨tail, rfl⟩ : ∃ tail, call = '.' :: tail := by
    cases call with
    | nil => exact absurd hhead (by simp)
    | cons c tail =>
      rw [List.head?_cons, Option.some.injEq] at hhead
      exact ⟨tail, by rw [hhead]⟩
  -- no slash of code stands before the dot of the call
  have hslash : ∀ front, before = front ++ ['/'] → (State.run {} front).quote ≠ none := by
    rintro front rfl
    exact h.slash front rest (by simp)
  rw [hcall] at h
  refine ⟨before, '.' :: tail, behind, by rw [hcall], rfl, rfl, by simp, ?_, ?_⟩
  · exact h.balanced.cut hcode (hdefault.run _ hstart) hslash
  · intro front back heq
    rcases List.append_eq_append_iff.1 heq with ⟨middle, rfl, hback⟩ | ⟨middle, hfront, hback⟩
    · have hquote := h.slash (before ++ ('.' :: tail ++ middle)) back (by rw [hback]; simp)
      rw [State.run_append, State.run_append, hdefault.run _ hstart] at hquote
      rw [State.run_append]
      exact hquote
    · cases middle with
      | nil =>
        rw [List.append_nil] at hfront
        rw [List.nil_append] at hback
        have hquote := h.slash (before ++ '.' :: tail) back (by rw [← hback]; simp)
        rw [State.run_append, hdefault.run _ hstart, hfront] at hquote
        exact hquote
      | cons c middle =>
        obtain ⟨rfl, hrest⟩ := List.cons.inj hback
        cases middle with
        | nil => exact hslash front hfront
        | cons d middle =>
          obtain ⟨rfl, rfl⟩ := List.cons.inj hrest
          exact h.slash front (middle ++ ('.' :: tail ++ behind)) (by rw [hfront]; simp)

end Nested

lemma withoutDefaults_of_none (h : Plain {} text) (hnone : callFrom [defaultName] {} text = none) :
    withoutDefaults text = text := by
  unfold withoutDefaults removeCalls
  split
  · rfl
  · rename_i hfound
    rw [firstCall?_eq h] at hfound
    exact absurd (hnone.symm.trans hfound) (by simp)

/-- The first call is cut out. -/
lemma withoutDefaults_of_firstCall? {before call behind : List Char}
    (h : firstCall? [defaultName] (before ++ (call ++ behind))
      = some (before.length, call.length)) :
    withoutDefaults (before ++ (call ++ behind)) = withoutDefaults (before ++ behind) := by
  conv_lhs => unfold withoutDefaults removeCalls
  split
  · rename_i hnone
    exact absurd (h.symm.trans hnone) (by simp)
  · rename_i start n hsome
    obtain ⟨rfl, rfl⟩ := Prod.mk.inj (Option.some.inj (hsome.symm.trans h))
    rw [List.take_left, ← List.drop_drop, List.drop_left, List.drop_left]
    rfl

lemma withoutDefaults_cut {before call behind : List Char}
    (h : Plain {} (before ++ (call ++ behind)))
    (hfound : callFrom [defaultName] {} (before ++ (call ++ behind))
      = some (before.length, call.length)) :
    withoutDefaults (before ++ (call ++ behind)) = withoutDefaults (before ++ behind) :=
  withoutDefaults_of_firstCall? (by rw [firstCall?_eq h, hfound])

/-- Induction along the defaults that are cut out of a nested text, the first one first. -/
theorem Nested.cutInduction {motive : List Char → Prop}
    (hdone : ∀ text, Nested text → callFrom [defaultName] {} text = none → motive text)
    (hcut : ∀ before call behind, Nested (before ++ (call ++ behind)) → Nested (before ++ behind) →
      callFrom [defaultName] {} (before ++ (call ++ behind)) = some (before.length, call.length) →
      motive (before ++ behind) → motive (before ++ (call ++ behind)))
    (h : Nested text) : motive text := by
  -- by length: what is left after the first cut is shorter, and nested again
  induction hlength : text.length using Nat.strong_induction_on generalizing text with
  | _ n ih =>
    cases hfound : callFrom [defaultName] {} text with
    | none => exact hdone text h hfound
    | some found =>
      obtain ⟨before, call, behind, rfl, hbefore, hcall, hne, hrest⟩ := h.cut hfound
      have hfound' : callFrom [defaultName] {} (before ++ (call ++ behind))
          = some (before.length, call.length) := by
        rw [hfound, hbefore, hcall]
      refine hcut before call behind h hrest hfound' (ih _ ?_ hrest rfl)
      have hpos := List.length_pos_iff.2 hne
      rw [← hlength]
      simp only [List.length_append]
      omega

end SlideContract.Chain
