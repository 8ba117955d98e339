import Mathlib.Data.Bool.AllAny
import Mathlib.Tactic.Common
import SlideContract.Proofs.Text.Name
import SlideContract.Scan.Balanced
import SlideContract.Scan.Split

/-!
# Plain and balanced texts

A text is plain from a state on if no comment opens in it, so that the walk visits each of its
characters in turn. A plain text is balanced if it brings the scan back to where it began and closes
no bracket that it does not open. What a walk says of a balanced text it says wherever the text
stands in code, with all depths raised by those around it.

* `visits_append`: the walk through a plain text and on behind it;
* `Balanced.append`, `Balanced.bracket`: how balanced texts are put together.
-/

namespace SlideContract.Scan

/-! ## States -/

namespace State

/-- The state behind a text whose characters are all visited. -/
def run (s : State) (text : List Char) : State := text.foldl advance s

@[simp] lemma run_nil (s : State) : s.run [] = s := rfl

@[simp] lemma run_cons (s : State) (c : Char) (text : List Char) :
    s.run (c :: text) = (s.advance c).run text := rfl

@[simp] lemma run_append (s : State) (text more : List Char) :
    s.run (text ++ more) = (s.run text).run more :=
  List.foldl_append

/-- The scan stands in code. -/
def IsCode (s : State) : Prop := s.quote = none ∧ s.escaped = false

lemma isCode_empty : IsCode {} := ⟨rfl, rfl⟩

/-- A state with its depths added to those of another one. -/
def raise (base s : State) : State :=
  { s with
    paren := base.paren + s.paren
    brace := base.brace + s.brace
    bracket := base.bracket + s.bracket }

/-- A state in code is that of an empty text, raised. -/
lemma raise_empty {s : State} (h : s.IsCode) : s.raise {} = s := by
  obtain ⟨paren, brace, bracket, quote, escaped⟩ := s
  obtain ⟨rfl, rfl⟩ := h
  simp [raise]

/-- A character moves the depths by the same amount at every height. -/
lemma advance_raise (base s : State) (c : Char) :
    (base.raise s).advance c = base.raise (s.advance c) := by
  obtain ⟨paren, brace, bracket, quote, escaped⟩ := s
  cases quote with
  | some quote =>
    unfold raise advance advanceInString
    simp only
    split_ifs <;> rfl
  | none =>
    unfold raise advance advanceInCode
    simp only
    split_ifs <;> simp only [State.mk.injEq, true_and, and_true] <;> omega

lemma run_raise (base s : State) (text : List Char) :
    (base.raise s).run text = base.raise (s.run text) := by
  induction text generalizing s with
  | nil => rfl
  | cons c rest ih => rw [run_cons, advance_raise, ih, run_cons]

end State

/-- The characters that open or close something. -/
def marks : List Char :=
  ['\x27', '\x22', '\x60', '(', ')', '\x7b', '\x7d', '[', ']', '/', '*', ';', '.', ',']

/-- Every other character leaves the scan as it is. -/
lemma advance_of_not_mem {c : Char} (h : c ∉ marks) : State.advance {} c = {} := by
  simp only [marks, List.mem_cons, not_or] at h
  show State.advanceInCode {} c = {}
  unfold State.advanceInCode isQuote
  simp [h]

lemma ne_of_not_mem_marks {c d : Char} (h : c ∉ marks) (hd : d ∈ marks) : c ≠ d := by
  rintro rfl
  exact h hd

/-- The character leaves the scan as it is, and opens no comment. -/
def IsStill (c : Char) : Prop := State.advance {} c = {} ∧ c ≠ '/'

lemma isStill_of_not_mem_marks {c : Char} (h : c ∉ marks) : IsStill c :=
  ⟨advance_of_not_mem h, ne_of_not_mem_marks h (by decide)⟩

/-- No blank opens or closes anything. -/
lemma not_mem_marks_of_isBlank {c : Char} (h : Text.isBlank c = true) : c ∉ marks := by
  have hmarks : ∀ d ∈ marks, Text.isBlank d = false := List.all_iff_forall_prop.1 (by decide)
  intro hmem
  rw [hmarks c hmem] at h
  exact absurd h (by decide)

lemma isStill_of_isBlank {c : Char} (h : Text.isBlank c = true) : IsStill c :=
  isStill_of_not_mem_marks (not_mem_marks_of_isBlank h)

/-- Names hold no character that opens or closes something. -/
lemma not_mem_marks_of_isNameChar {c : Char} (h : Text.isNameChar c = true) : c ∉ marks := by
  have hmarks : ∀ d ∈ marks, Text.isNameChar d = false := fun d hd =>
    Text.isNameChar_of_isSeparator (List.all_eq_true.1 (by decide) d hd)
  intro hmem
  rw [hmarks c hmem] at h
  exact absurd h (by decide)

/-! ## Plain texts -/

/-- The visits of a text whose characters are all visited. -/
def trace (s : State) (index : ℕ) : List Char → List Visit
  | [] => []
  | c :: rest => visit s index c :: trace (s.advance c) (index + 1) rest

lemma trace_append (s : State) (index : ℕ) (text more : List Char) :
    trace s index (text ++ more)
      = trace s index text ++ trace (s.run text) (index + text.length) more := by
  induction text generalizing s index with
  | nil => rfl
  | cons c rest ih =>
    rw [List.cons_append, trace, trace, ih, List.length_cons, State.run_cons, List.cons_append,
      Nat.add_assoc, Nat.add_comm 1]

/-- A visit of a text stands between what comes before its character and what comes behind. -/
lemma mem_trace {s : State} {index : ℕ} {text : List Char} {v : Visit} :
    v ∈ trace s index text ↔ ∃ before c behind, text = before ++ c :: behind ∧
      v = visit (s.run before) (index + before.length) c := by
  constructor
  · intro h
    induction text generalizing s index with
    | nil => exact absurd h List.not_mem_nil
    | cons c rest ih =>
      rcases List.mem_cons.1 h with rfl | h
      · exact ⟨[], c, rest, rfl, rfl⟩
      · obtain ⟨before, d, behind, rfl, rfl⟩ := ih h
        refine ⟨c :: before, d, behind, rfl, ?_⟩
        rw [List.length_cons, State.run_cons, Nat.add_assoc, Nat.add_comm 1]
  · rintro ⟨before, c, behind, rfl, rfl⟩
    rw [trace_append, trace]
    exact List.mem_append_right _ List.mem_cons_self

@[simp] lemma trace_char (s : State) (index : ℕ) (text : List Char) :
    (trace s index text).map (·.char) = text := by
  induction text generalizing s index with
  | nil => rfl
  | cons c rest ih => rw [trace, List.map_cons, ih]; rfl

/-- A visit at a raised height. -/
def Visit.raise (base : State) (v : Visit) : Visit := { v with after := base.raise v.after }

lemma trace_raise (base s : State) (index : ℕ) (text : List Char) :
    trace (base.raise s) index text = (trace s index text).map (·.raise base) := by
  induction text generalizing s index with
  | nil => rfl
  | cons c rest ih =>
    rw [trace, trace, List.map_cons, State.advance_raise, ih]
    simp only [visit, Visit.raise, State.advance_raise]
    rfl

/-- No comment opens in the text, scanned from the state on. -/
def Plain : State → List Char → Prop
  | _, [] => True
  | s, c :: rest => (s.quote = none → commentLength (c :: rest) = 0) ∧ Plain (s.advance c) rest

/-- A comment opens with a slash before a slash or a star. -/
lemma commentLength_eq_zero_iff {c : Char} {rest : List Char} :
    commentLength (c :: rest) = 0 ↔
      ¬ (c = '/' ∧ (rest.head? = some '/' ∨ rest.head? = some '*')) := by
  cases rest with
  | nil => simp [commentLength]
  | cons d rest =>
    by_cases hc : c = '/'
    · by_cases hd : d = '/'
      · simp [commentLength, hc, hd]
      · by_cases hs : d = '*'
        · simp [commentLength, hc, hs]
        · simp [commentLength, hc, hd, hs]
    · simp [commentLength, hc]

lemma IsStill.commentLength {c : Char} (h : IsStill c) (rest : List Char) :
    commentLength (c :: rest) = 0 :=
  commentLength_eq_zero_iff.2 fun hc => h.2 hc.1

/-- The text can stand behind a slash without opening a comment. -/
def Follows (text : List Char) : Prop := text.head? ≠ some '/' ∧ text.head? ≠ some '*'

lemma follows_nil : Follows [] := ⟨by simp, by simp⟩

/-- No comment opens where the two texts meet. -/
def Joins (text more : List Char) : Prop := text.getLast? = some '/' → Follows more

lemma Follows.joins {more : List Char} (h : Follows more) (text : List Char) : Joins text more :=
  fun _ => h

/-- Plain texts one after the other are plain, if no slash that ends the first one in code opens a
comment with what stands behind it. -/
lemma Plain.append {s : State} {text more : List Char} (h : Plain s text)
    (hmore : Plain (s.run text) more)
    (hslash : ∀ before, text = before ++ ['/'] → (s.run before).quote = none → Follows more) :
    Plain s (text ++ more) := by
  induction text generalizing s with
  | nil => exact hmore
  | cons c rest ih =>
    refine ⟨?_, ih h.2 hmore fun before heq => hslash (c :: before) (by rw [heq]; rfl)⟩
    intro hquote
    have hc := h.1 hquote
    rw [commentLength_eq_zero_iff] at hc ⊢
    rintro ⟨rfl, hhead⟩
    cases rest with
    | nil =>
      obtain ⟨hnoSlash, hnoStar⟩ := hslash [] rfl hquote
      exact hhead.elim hnoSlash hnoStar
    | cons d rest => exact hc ⟨rfl, hhead⟩

lemma plain_append {s : State} {text more : List Char} (h : Plain s text)
    (hmore : Plain (s.run text) more) (hfollows : Follows more) : Plain s (text ++ more) :=
  h.append hmore fun _ _ _ => hfollows

lemma plain_raise {base s : State} {text : List Char} :
    Plain (base.raise s) text ↔ Plain s text := by
  induction text generalizing s with
  | nil => exact Iff.rfl
  | cons c rest ih =>
    unfold Plain
    rw [State.advance_raise, ih]
    rfl

/-- A character is visited if no comment opens with it. -/
lemma visits_cons {s : State} {c : Char} {rest : List Char}
    (h : s.quote = none → commentLength (c :: rest) = 0) (index : ℕ) :
    visits s index (c :: rest) = visit s index c :: visits (s.advance c) (index + 1) rest := by
  have hskip : (if s.quote.isNone then commentLength (c :: rest) else 0) = 0 := by
    split
    · rename_i hnone
      exact h (Option.isNone_iff_eq_none.1 hnone)
    · rfl
  rw [visits]
  simp only [hskip, dite_true]

/-- The walk goes through a plain text and then on behind it. -/
lemma visits_append {s : State} {text more : List Char} (h : Plain s text)
    (hjoins : Joins text more)
    (index : ℕ) :
    visits s index (text ++ more)
      = trace s index text ++ visits (s.run text) (index + text.length) more := by
  induction text generalizing s index with
  | nil => rfl
  | cons c rest ih =>
    have hskip : s.quote = none → commentLength (c :: (rest ++ more)) = 0 := by
      intro hquote
      have hc := h.1 hquote
      rw [commentLength_eq_zero_iff] at hc ⊢
      rintro ⟨rfl, hhead⟩
      cases rest with
      | nil => exact hhead.elim (hjoins rfl).1 (hjoins rfl).2
      | cons d rest => exact hc ⟨rfl, hhead⟩
    have hrest : Joins rest more := by
      intro hlast
      apply hjoins
      rw [List.getLast?_cons, hlast]
      rfl
    rw [List.cons_append, visits_cons hskip, ih h.2 hrest, trace, List.cons_append,
      List.length_cons, State.run_cons, Nat.add_assoc, Nat.add_comm 1]

lemma visits_of_plain {s : State} {text : List Char} (h : Plain s text) (index : ℕ) :
    visits s index text = trace s index text := by
  have happend := visits_append h (follows_nil.joins text) index
  rw [List.append_nil] at happend
  rw [happend, visits, List.append_nil]

/-- A plain text has no comments to lose. -/
lemma stripComments_of_plain {text : List Char} (h : Plain {} text) :
    stripComments text = text := by
  unfold stripComments walk
  rw [visits_of_plain h, trace_char]

/-! ## Balanced texts -/

/-- A text without comments that ends where it began, and closes no bracket that it does not
open. -/
structure Balanced (text : List Char) : Prop where
  plain : Plain {} text
  final : State.run {} text = {}
  closes : ∀ index, ∀ v ∈ trace {} index text, v.after.unbalanced = false

namespace Balanced

variable {text more : List Char}

lemma nil : Balanced [] where
  plain := trivial
  final := rfl
  closes _ _ h := absurd h List.not_mem_nil

lemma append (h : Balanced text) (hmore : Balanced more) (hfollows : Follows more) :
    Balanced (text ++ more) where
  plain := plain_append h.plain (by rw [h.final]; exact hmore.plain) hfollows
  final := by rw [State.run_append, h.final, hmore.final]
  closes := by
    intro index v hv
    rw [trace_append, h.final] at hv
    rcases List.mem_append.1 hv with hv | hv
    · exact h.closes index v hv
    · exact hmore.closes _ v hv

/-- A single character that neither opens nor closes anything. -/
lemma char {c : Char} (h : State.advance {} c = {}) : Balanced [c] where
  plain := ⟨fun _ => by rw [commentLength_eq_zero_iff]; simp, trivial⟩
  final := h
  closes := by
    intro index v hv
    rw [trace, trace, List.mem_singleton] at hv
    rw [hv]
    show (State.advance {} c).unbalanced = false
    rw [h]
    rfl

/-- Such a character in front, if it opens no comment. -/
lemma cons {c : Char} (h : State.advance {} c = {}) (hslash : c ≠ '/') (htext : Balanced text) :
    Balanced (c :: text) where
  plain := by
    refine ⟨?_, ?_⟩
    · intro _
      rw [commentLength_eq_zero_iff]
      exact fun hc => hslash hc.1
    · rw [h]
      exact htext.plain
  final := by rw [State.run_cons, h, htext.final]
  closes := by
    intro index v hv
    rw [trace, h] at hv
    rcases List.mem_cons.1 hv with rfl | hv
    · show (State.advance {} c).unbalanced = false
      rw [h]
      rfl
    · exact htext.closes _ v hv

/-- Characters in front that leave the scan as it is. -/
lemma still {front : List Char} (h : ∀ c ∈ front, IsStill c) (htext : Balanced text) :
    Balanced (front ++ text) := by
  induction front with
  | nil => exact htext
  | cons c rest ih =>
    obtain ⟨hadvance, hslash⟩ := h c List.mem_cons_self
    exact .cons hadvance hslash (ih fun d hd => h d (List.mem_cons_of_mem _ hd))

lemma of_still (h : ∀ c ∈ text, IsStill c) : Balanced text := by
  rw [← List.append_nil text]
  exact .still h .nil

/-- A text in front in which nothing opens or closes. -/
lemma unmarked {front : List Char} (h : ∀ c ∈ front, c ∉ marks) (htext : Balanced text) :
    Balanced (front ++ text) :=
  .still (fun c hc => isStill_of_not_mem_marks (h c hc)) htext

lemma blanks {blanks : List Char} (hblanks : ∀ c ∈ blanks, Text.isBlank c = true)
    (htext : Balanced text) : Balanced (blanks ++ text) :=
  .unmarked (fun c hc => not_mem_marks_of_isBlank (hblanks c hc)) htext

/-- A balanced text leaves the state of code as it is. -/
lemma run_eq (h : Balanced text) {s : State} (hs : s.IsCode) : s.run text = s := by
  have hrun := State.run_raise s {} text
  rw [h.final, State.raise_empty hs] at hrun
  exact hrun

lemma plain_at (h : Balanced text) {s : State} (hs : s.IsCode) : Plain s text := by
  rw [← State.raise_empty hs]
  exact plain_raise.2 h.plain

/-- The visits of a balanced text in code are those of the text alone, raised. -/
lemma trace_eq {s : State} (hs : s.IsCode) (index : ℕ) (text : List Char) :
    trace s index text = (trace {} index text).map (·.raise s) := by
  have hraise := trace_raise s {} index text
  rw [State.raise_empty hs] at hraise
  exact hraise

end Balanced

/-! ## Brackets -/

/-- What a bracket does to the state. -/
lemma bracket_states {opener closer : Char} (h : closer? opener = some closer) :
    (State.advance {} opener).IsCode ∧ (State.advance {} opener).unbalanced = false ∧
      (State.advance {} opener).isLevel = false ∧
      (State.advance {} opener).advance closer = {} := by
  unfold closer? at h
  split at h <;> first | (cases h; exact ⟨⟨rfl, rfl⟩, rfl, rfl, rfl⟩) | exact absurd h (by simp)

/-- Brackets are no quotes and open no comments, and each closer differs from its opener. -/
lemma bracket_chars {opener closer : Char} (h : closer? opener = some closer) :
    isQuote closer = false ∧ opener ≠ '/' ∧ closer ≠ '/' ∧ closer ≠ '*' ∧ opener ≠ closer := by
  unfold closer? at h
  split at h <;> first | (cases h; decide) | exact absurd h (by simp)

lemma State.unbalanced_eq_false_iff {s : State} :
    s.unbalanced = false ↔ 0 ≤ s.paren ∧ 0 ≤ s.brace ∧ 0 ≤ s.bracket := by
  simp [unbalanced, and_assoc]

/-- Depths that are not negative add up to such depths, and to an open bracket if one is open. -/
lemma raise_unbalanced {base s : State} (hbase : base.unbalanced = false)
    (hs : s.unbalanced = false) : (base.raise s).unbalanced = false := by
  rw [State.unbalanced_eq_false_iff] at *
  unfold State.raise
  simp only
  omega

lemma raise_isLevel {base s : State} (hbase : base.unbalanced = false)
    (hlevel : base.isLevel = false) (hs : s.unbalanced = false) :
    (base.raise s).isLevel = false := by
  simp only [State.unbalanced, State.isLevel, Bool.or_eq_false_iff, decide_eq_false_iff_not,
    Bool.and_eq_false_iff, beq_eq_false_iff_ne, State.raise] at *
  omega

variable {text more : List Char} {opener closer : Char}

/-- A bracket around a balanced text. -/
lemma Balanced.bracket (h : closer? opener = some closer) (htext : Balanced text) :
    Balanced (opener :: (text ++ [closer])) := by
  obtain ⟨hcode, hopen, -, hclose⟩ := bracket_states h
  obtain ⟨-, hslash, hslash', hstar, -⟩ := bracket_chars h
  have hfollows : Follows [closer] := ⟨by simpa using hslash', by simpa using hstar⟩
  refine ⟨⟨?_, ?_⟩, ?_, ?_⟩
  · intro _
    rw [commentLength_eq_zero_iff]
    exact fun hc => hslash hc.1
  · refine plain_append (htext.plain_at hcode) ⟨?_, trivial⟩ hfollows
    intro _
    rw [commentLength_eq_zero_iff]
    exact fun hc => hslash' hc.1
  · rw [State.run_cons, State.run_append, htext.run_eq hcode, State.run_cons, hclose]
    rfl
  · intro index v hv
    rw [trace, trace_append, htext.run_eq hcode, Balanced.trace_eq hcode, trace, trace] at hv
    rcases List.mem_cons.1 hv with rfl | hv
    · exact hopen
    rcases List.mem_append.1 hv with hv | hv
    · obtain ⟨w, hw, rfl⟩ := List.mem_map.1 hv
      exact raise_unbalanced hopen (htext.closes _ w hw)
    · rw [List.mem_singleton.1 hv]
      show ((State.advance {} opener).advance closer).unbalanced = false
      rw [hclose]
      rfl

end SlideContract.Scan
