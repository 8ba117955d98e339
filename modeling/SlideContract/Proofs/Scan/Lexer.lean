import SlideContract.Proofs.Scan.Code
import SlideContract.Proofs.Scan.Uncommented

/-!
# Reading character by character

A walk jumps over comments, whose ends it searches for. A lexer here reads each character in turn
and knows nothing but the mode that it is in and the next character. Outside comments the two read
the same.

* `Mode`, `readings`: the lexer;
* `readings_comment`: the lexer leaves a comment where the comment ends;
* `visits_eq_readings`: a walk is what the lexer reads outside comments.
-/

namespace SlideContract.Scan

/-! ## The lexer -/

/-- What a lexer is in the middle of at a character: code, a string of a quote whose last character
may have been a backslash, a line comment, or a block comment, at its opening mark, between its
marks or at the last character of its closing mark. -/
inductive Mode where
  | code
  | string (quote : Char) (escaped : Bool)
  | line
  | opening
  | block
  | closing
  deriving DecidableEq, Repr

namespace Mode

/-- The mode is that of a comment. -/
def isComment : Mode → Bool
  | code | string _ _ => false
  | line | opening | block | closing => true

/-- The mode at a character, from that behind the one before it and from the character ahead: in
code two slashes, or a slash and a star, open a comment. -/
def enter (m : Mode) (c : Char) (ahead : Option Char) : Mode :=
  if m = code ∧ c = '/' ∧ ahead = some '/' then line
  else if m = code ∧ c = '/' ∧ ahead = some '*' then opening
  else m

/-- The mode behind a character, from that at the character and from the character ahead. -/
def leave (m : Mode) (c : Char) (ahead : Option Char) : Mode :=
  match m with
  | code => if isQuote c then string c false else code
  | string quote true => string quote false
  | string quote false =>
    if c = '\\' then string quote true
    else if c = quote ∨ c = '\n' ∧ quote ≠ spanningQuote then code
    else string quote false
  | line => if ahead = some '\n' then code else line
  | opening => if c = '*' then block else opening
  | block => if c = '*' ∧ ahead = some '/' then closing else block
  | closing => code

end Mode

/-- A character that the lexer reads: its index, the mode at it, and the mode behind it. -/
structure Reading where
  index : ℕ
  char : Char
  mode : Mode
  behind : Mode
  deriving DecidableEq, Repr

/-- The readings of a text whose first character has the index `index`, from a mode on. -/
def readings (m : Mode) (index : ℕ) : List Char → List Reading
  | [] => []
  | c :: rest =>
    let mode := m.enter c rest.head?
    let behind := mode.leave c rest.head?
    ⟨index, c, mode, behind⟩ :: readings behind (index + 1) rest

/-- The readings outside comments. -/
def outsideComments (read : List Reading) : List Reading := read.filter fun r => !r.mode.isComment

/-- How often a character is read in code up to an index. -/
def codeCount (c : Char) (index : ℕ) (read : List Reading) : ℕ :=
  read.countP fun r => r.mode == .code && r.char == c && decide (r.index ≤ index)

/-- The openers of a bracket that are read in code up to an index, less the closers. -/
def codeDepth (opener closer : Char) (index : ℕ) (read : List Reading) : ℤ :=
  codeCount opener index read - codeCount closer index read

/-- The mode of a lexer that knows what a scan knows outside comments. -/
def State.mode (s : State) : Mode :=
  match s.quote with
  | none => .code
  | some quote => .string quote s.escaped

/-- What a walk says of a character, and what is behind it. -/
def Visit.read (v : Visit) : ℕ × Char × Bool × Mode :=
  (v.index, v.char, v.outside, v.after.mode)

/-- What the lexer says of a character. It is code in the mode of code unless it is a quote. -/
def Reading.read (r : Reading) : ℕ × Char × Bool × Mode :=
  (r.index, r.char, r.mode == .code && !isQuote r.char, r.behind)

/-! ## Characters outside comments -/

variable {s : State} {text comment behind : List Char} {index : ℕ} {c : Char}

@[simp] lemma readings_nil (m : Mode) (index : ℕ) : readings m index [] = [] := rfl

lemma mode_of_quote (h : s.quote = none) : s.mode = .code := by
  rw [State.mode, h]

lemma isComment_mode (s : State) : s.mode.isComment = false := by
  unfold State.mode
  cases s.quote <;> rfl

lemma mode_eq_code (s : State) : (s.mode == .code) = s.quote.isNone := by
  unfold State.mode
  cases s.quote <;> rfl

/-- Where no comment opens the mode stays. -/
lemma enter_mode (h : s.quote = none → commentLength (c :: text) = 0) :
    s.mode.enter c text.head? = s.mode := by
  unfold Mode.enter
  by_cases hcode : s.mode = .code
  · have hquote : s.quote = none := by
      rw [← Option.isNone_iff_eq_none, ← mode_eq_code, hcode]
      rfl
    have hopen := commentLength_eq_zero_iff.1 (h hquote)
    rw [if_neg fun hline => hopen ⟨hline.2.1, .inl hline.2.2⟩,
      if_neg fun hblock => hopen ⟨hblock.2.1, .inr hblock.2.2⟩]
  · rw [if_neg fun hline => hcode hline.1, if_neg fun hblock => hcode hblock.1]

/-- Outside comments the lexer goes on as the scan does. -/
lemma leave_mode (hs : s.quote = none → s.escaped = false) (c : Char) (ahead : Option Char) :
    s.mode.leave c ahead = (s.advance c).mode := by
  -- a quote enters a string in code, and only its own quote leaves it, unless it is escaped
  cases hquote : s.quote with
  | none =>
    rw [mode_of_quote hquote]
    by_cases hopen : isQuote c = true
    · have hadvance : s.advance c = { s with quote := some c } := by
        simp [State.advance, State.advanceInCode, hquote, hopen]
      simp [Mode.leave, State.mode, hadvance, hopen, hs hquote]
    · have hout : (visit s 0 c).outside = true := by simp [visit, hquote, hopen]
      rw [mode_of_quote (quote_of_outside c hout).2.2]
      exact if_neg hopen
  | some quote =>
    have hadvance : s.advance c = s.advanceInString quote c := by simp [State.advance, hquote]
    have hmode : s.mode = .string quote s.escaped := by rw [State.mode, hquote]
    rw [hadvance, hmode]
    cases hescaped : s.escaped with
    | true => simp [State.advanceInString, State.mode, Mode.leave, hescaped, hquote]
    | false =>
      unfold State.advanceInString Mode.leave
      simp only [hescaped, Bool.false_eq_true, if_false, beq_iff_eq, Bool.and_eq_true, bne_iff_ne]
      split_ifs <;> simp_all [State.mode]

lemma readings_visited (hc : s.quote = none → commentLength (c :: text) = 0)
    (hs : s.quote = none → s.escaped = false) (index : ℕ) :
    readings s.mode index (c :: text)
      = ⟨index, c, s.mode, (s.advance c).mode⟩
        :: readings (s.advance c).mode (index + 1) text := by
  rw [readings]
  simp only [enter_mode hc, leave_mode hs]

/-! ## Comments -/

lemma enter_of_isComment {m : Mode} (h : m.isComment = true) (c : Char) (ahead : Option Char) :
    m.enter c ahead = m := by
  have hcode : m ≠ .code := by
    rintro rfl
    exact absurd h (by decide)
  rw [Mode.enter, if_neg fun hline => hcode hline.1, if_neg fun hblock => hcode hblock.1]

/-- A character in a comment leaves nothing. -/
lemma outsideComments_cons {m : Mode} (h : m.isComment = true) (index : ℕ) (c : Char)
    (text : List Char) : outsideComments (readings m index (c :: text))
      = outsideComments (readings (m.leave c text.head?) (index + 1) text) := by
  rw [readings]
  simp only [enter_of_isComment h, outsideComments]
  exact List.filter_cons_of_neg (by simp [h])

/-- The lexer is through a line comment at the line break ahead, or at the end. -/
lemma readings_line (hbody : '\n' ∉ c :: text) (hbehind : ∀ d ∈ behind.head?, d = '\n')
    (index : ℕ) :
    outsideComments (readings .line index (c :: (text ++ behind)))
      = outsideComments (readings .code (index + (text.length + 1)) behind) := by
  rw [outsideComments_cons rfl]
  -- at each character the one ahead decides, so that the break is seen before it is read
  induction text generalizing c index with
  | nil =>
    cases behind with
    | nil => rfl
    | cons d behind =>
      obtain rfl := hbehind d rfl
      rfl
  | cons d text ih =>
    rw [List.mem_cons, not_or] at hbody
    have hbreak : d ≠ '\n' := fun hd => hbody.2 (hd ▸ List.mem_cons_self)
    have hleave : Mode.leave .line c (d :: text ++ behind).head? = .line :=
      if_neg fun hahead => hbreak (Option.some.inj hahead)
    rw [hleave, List.cons_append, outsideComments_cons rfl, ih hbody.2, List.length_cons]
    congr 2
    omega

/-- Between the marks of a block comment the mode stays. -/
lemma leave_block (hbody : ¬ ['*', '/'] <:+: c :: text) (hbehind : behind.head? ≠ some '/') :
    Mode.leave .block c (text ++ behind).head? = .block := by
  refine if_neg ?_
  rintro ⟨rfl, hahead⟩
  cases text with
  | nil => exact hbehind hahead
  | cons d text =>
    obtain rfl : d = '/' := Option.some.inj hahead
    exact hbody ⟨[], text, rfl⟩

/-- The lexer is through a block comment behind its first closing mark. -/
lemma readings_block (hbody : ¬ ['*', '/'] <:+: text) (index : ℕ) (behind : List Char) :
    outsideComments (readings .block index (text ++ '*' :: '/' :: behind))
      = outsideComments (readings .code (index + (text.length + 2)) behind) := by
  induction text generalizing index with
  | nil => rw [List.nil_append, outsideComments_cons rfl]; rfl
  | cons c text ih =>
    rw [List.cons_append, outsideComments_cons rfl, leave_block hbody (by simp),
      ih fun hinfix => hbody (List.infix_cons hinfix), List.length_cons]
    congr 2
    omega

/-- The lexer never leaves a block comment without a closing mark. -/
lemma readings_unclosed (hbody : ¬ ['*', '/'] <:+: text) (index : ℕ) :
    outsideComments (readings .block index text) = [] := by
  induction text generalizing index with
  | nil => rfl
  | cons c text ih =>
    have hleave := @leave_block text [] c hbody (by simp)
    rw [List.append_nil] at hleave
    rw [outsideComments_cons rfl, hleave, ih fun hinfix => hbody (List.infix_cons hinfix)]

/-- The lexer leaves a comment where the comment ends. -/
lemma readings_comment (h : IsComment comment behind) (index : ℕ) :
    outsideComments (readings .code index (comment ++ behind))
      = outsideComments (readings .code (index + comment.length) behind) := by
  cases h with
  | @line body behind hbody hbehind =>
    have hslash : '\n' ∉ '/' :: body := by simpa using hbody
    have hopen : ∀ text, outsideComments (readings .code index ('/' :: '/' :: text))
        = outsideComments (readings .line (index + 1) ('/' :: text)) := fun _ => rfl
    rw [List.cons_append, List.cons_append, hopen, readings_line hslash hbehind, Nat.add_assoc,
      Nat.add_comm 1]
    rfl
  | @block body behind hbody =>
    have hopen : ∀ text, outsideComments (readings .code index ('/' :: '*' :: text))
        = outsideComments (readings .block (index + 2) text) := fun _ => rfl
    have hsplit : body ++ ['*', '/'] ++ behind = body ++ '*' :: '/' :: behind := by simp
    rw [List.cons_append, List.cons_append, hsplit, hopen, readings_block hbody, List.length_cons,
      List.length_cons, List.length_append, Nat.add_assoc, Nat.add_comm 2]
    rfl
  | @unclosed body hbody =>
    rw [List.append_nil, readings_nil]
    exact readings_unclosed hbody (index + 2)

/-! ## The walk -/

/-- A walk is what the lexer reads outside comments. -/
lemma map_read_visits (hs : s.quote = none → s.escaped = false) (index : ℕ) (text : List Char) :
    (visits s index text).map Visit.read
      = (outsideComments (readings s.mode index text)).map Reading.read := by
  -- the walk decides at each place whether a character is visited or a comment skipped
  induction s, text using walk_induction generalizing index with
  | nil s => rw [visits]; rfl
  | visited s c text hc ih =>
    have hkept : outsideComments (readings s.mode index (c :: text))
        = ⟨index, c, s.mode, (s.advance c).mode⟩
          :: outsideComments (readings (s.advance c).mode (index + 1) text) := by
      rw [readings_visited hc hs]
      exact List.filter_cons_of_pos (by simp [isComment_mode])
    rw [visits_cons hc, hkept, List.map_cons, List.map_cons, ih (State.escaped_advance hs c)]
    simp [Visit.read, Reading.read, visit, mode_eq_code]
  | skipped s comment text hcode hne hcomment ih =>
    rw [visits_comment hcode hne hcomment, ih hs, mode_of_quote hcode,
      readings_comment (isComment_iff.2 ⟨hne, hcomment⟩)]

lemma map_index_readings (m : Mode) (index : ℕ) (text : List Char) :
    (readings m index text).map (·.index) = List.range' index text.length := by
  induction text generalizing m index with
  | nil => rfl
  | cons c text ih => rw [readings, List.map_cons, ih, List.length_cons, List.range'_succ]

/-! ## Depths -/

/-- A depth counts the openers of a bracket in code, less the closers. -/
def Counts (depth : State → ℤ) (opener closer : Char) : Prop :=
  ∀ (s : State) (c : Char), depth (s.advance c) =
    depth s + (if s.mode == .code && c == opener then 1 else 0)
      - (if s.mode == .code && c == closer then 1 else 0)

lemma counts_depths :
    Counts State.paren '(' ')' ∧ Counts State.brace '\x7b' '\x7d' ∧
      Counts State.bracket '[' ']' := by
  refine ⟨?_, ?_, ?_⟩ <;>
  · intro s c
    rw [mode_eq_code]
    unfold State.advance
    cases hquote : s.quote with
    | none =>
      unfold State.advanceInCode isQuote
      grind
    | some quote =>
      unfold State.advanceInString
      grind

lemma index_of_mem_readings {m : Mode} {r : Reading} (hr : r ∈ readings m index text) :
    index ≤ r.index := by
  have hindex : r.index ∈ List.range' index text.length := by
    rw [← map_index_readings m]
    exact List.mem_map_of_mem hr
  exact (List.mem_range'_1.1 hindex).1

/-- No character in code is left out of the readings outside comments. -/
lemma codeCount_outsideComments (c : Char) (index : ℕ) (read : List Reading) :
    codeCount c index (outsideComments read) = codeCount c index read := by
  unfold codeCount outsideComments
  rw [List.countP_filter]
  refine List.countP_congr fun r _ => ?_
  cases hmode : r.mode <;> simp [Mode.isComment]

/-- A reading counts from its index on. -/
lemma codeCount_cons {m : Mode} (d : Char) {other : ℕ} (hle : index ≤ other)
    (read : List Reading) : codeCount d other (⟨index, c, s.mode, m⟩ :: read)
      = codeCount d other read + (if s.mode == .code && c == d then 1 else 0) := by
  unfold codeCount
  rw [List.countP_cons]
  simp only [hle, decide_true, Bool.and_true]

/-- What is read later does not count. -/
lemma codeCount_later (d : Char) (m : Mode) (index : ℕ) (text : List Char) :
    codeCount d index (readings m (index + 1) text) = 0 := by
  refine List.countP_eq_zero.2 fun r hr => ?_
  have hlate : ¬ r.index ≤ index := Nat.not_le.2 (index_of_mem_readings hr)
  simp [hlate]

/-- Behind a visited character a depth has moved by what was read in code up to there. -/
lemma depth_of_mem_visits {depth : State → ℤ} {opener closer : Char}
    (hdepth : Counts depth opener closer) (hs : s.quote = none → s.escaped = false) {v : Visit}
    (hv : v ∈ visits s index text) :
    depth v.after = depth s + codeDepth opener closer v.index (readings s.mode index text) := by
  unfold codeDepth
  -- by the walk's own recursion: a visited character moves the depth, and a comment moves nothing
  induction s, text using walk_induction generalizing index with
  | nil s =>
    rw [visits] at hv
    exact absurd hv List.not_mem_nil
  | visited s c text hc ih =>
    have hstep := hdepth s c
    rw [visits_cons hc] at hv
    rw [readings_visited hc hs]
    rcases List.mem_cons.1 hv with rfl | hv
    · -- at the first character nothing but itself counts
      have hle := Nat.le_refl index
      show depth (s.advance c) = depth s + (codeCount opener index (_ :: readings _ _ _)
        - codeCount closer index (_ :: readings _ _ _))
      rw [codeCount_cons _ hle, codeCount_cons _ hle, codeCount_later, codeCount_later, hstep]
      split_ifs <;> omega
    · have hle : index ≤ v.index := Nat.le_of_succ_le (index_of_mem_visits hv).1
      rw [codeCount_cons _ hle, codeCount_cons _ hle, ih (State.escaped_advance hs c) hv, hstep]
      split_ifs <;> omega
  | skipped s comment text hcode hne hcomment ih =>
    rw [visits_comment hcode hne hcomment] at hv
    have hread := readings_comment (isComment_iff.2 ⟨hne, hcomment⟩) index
    rw [ih hs hv, mode_of_quote hcode, ← codeCount_outsideComments opener,
      ← codeCount_outsideComments closer, ← hread, codeCount_outsideComments,
      codeCount_outsideComments]

/-- A walk reads what the lexer reads outside comments, each character once and in turn, and calls
it code in the mode of code unless it is a quote. Each depth is the openers that were read in code,
less the closers, and nothing is escaped outside strings. -/
theorem visits_eq_readings (start : ℕ) (text : List Char) :
    (visits {} start text).map Visit.read
        = (outsideComments (readings .code start text)).map Reading.read ∧
      ((visits {} start text).map (·.index)).Pairwise (· < ·) ∧
      (∀ v ∈ visits {} start text,
        v.after.paren = codeDepth '(' ')' v.index (readings .code start text) ∧
          v.after.brace = codeDepth '\x7b' '\x7d' v.index (readings .code start text) ∧
          v.after.bracket = codeDepth '[' ']' v.index (readings .code start text)) ∧
      ∀ v ∈ visits {} start text, v.after.escaped = true → v.after.inString = true := by
  have hempty : State.quote {} = none → State.escaped {} = false := fun _ => rfl
  have hread := map_read_visits hempty start text
  refine ⟨hread, ?_, fun v hv => ?_, fun v hv hescaped => ?_⟩
  · -- the walk's places are those of some of the readings, which come one after the other
    have hindex : (visits {} start text).map (·.index)
        = (outsideComments (readings .code start text)).map (·.index) := by
      have hfirst := congrArg (List.map Prod.fst) hread
      rwa [List.map_map, List.map_map] at hfirst
    have hsublist := (List.filter_sublist (l := readings .code start text)
      (p := fun r => !r.mode.isComment)).map (·.index)
    rw [map_index_readings] at hsublist
    rw [hindex]
    exact (List.pairwise_lt_range' 1).sublist hsublist
  · obtain ⟨hparen, hbrace, hbracket⟩ := counts_depths
    refine ⟨?_, ?_, ?_⟩
    · exact (depth_of_mem_visits hparen hempty hv).trans (Int.zero_add _)
    · exact (depth_of_mem_visits hbrace hempty hv).trans (Int.zero_add _)
    · exact (depth_of_mem_visits hbracket hempty hv).trans (Int.zero_add _)
  · obtain ⟨before, c, behind, -, rfl, -, -⟩ := exists_of_mem_visits hv
    have hclear := State.escaped_advance (State.escaped_run hempty (shed {} before)) c
    cases hquote : ((State.run {} (shed {} before)).advance c).quote with
    | none => exact absurd ((hclear hquote).symm.trans hescaped) (by decide)
    | some quote => exact congrArg Option.isSome hquote

/-- A slash behind the mark that opens a comment closes nothing, and one in a string opens
nothing. -/
example : (outsideComments (readings .code 0
    ['/', '*', '/', '(', '*', '/', '[', '\x22', '/', '/', '\x22', ']'])).map (·.index)
    = [6, 7, 8, 9, 10, 11] := by
  decide

/-- The code of a text is what the lexer reads in the mode of code, quotes aside. -/
theorem codeOffsets_eq_readings (text : List Char) :
    codeOffsets text
      = ((readings .code 0 text).filter fun r => r.mode == .code && !isQuote r.char).map
        (·.index) := by
  have hread : (walk text).map Visit.read
      = (outsideComments (readings .code 0 text)).map Reading.read :=
    map_read_visits (fun _ => rfl) 0 text
  have hcode : ∀ r : Reading, ((r.mode == .code && !isQuote r.char) && !r.mode.isComment)
      = (r.mode == .code && !isQuote r.char) := by
    intro r
    cases hmode : r.mode <;> simp [Mode.isComment]
  calc codeOffsets text
      = (((walk text).map Visit.read).filter fun r => r.2.2.1).map (·.1) := by
        rw [List.filter_map, List.map_map]
        rfl
    _ = (((outsideComments (readings .code 0 text)).map Reading.read).filter
          fun r => r.2.2.1).map (·.1) := by rw [hread]
    _ = ((outsideComments (readings .code 0 text)).filter
          fun r => r.mode == .code && !isQuote r.char).map (·.index) := by
        rw [List.filter_map, List.map_map]
        rfl
    _ = _ := by
        rw [outsideComments, List.filter_filter]
        simp only [hcode]

end SlideContract.Scan
