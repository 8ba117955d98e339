import SlideContract.Proofs.Scan.Region

/-!
# Texts with comments

A walk sees of a text what it sees of the text without comments, at other indexes. Where each
comment of a text ends inside it, the walk goes on behind the text as it goes on behind the text
without them, so that a comment in a bracket changes nothing about where the bracket ends.

* `plain_shed`, `stripComments_stripComments`: no comment is left in a text that lost its comments;
* `exists_of_mem_visits`: what the visits of a text are;
* `Ended`, `Commented`: texts whose comments end inside, and such texts that are balanced otherwise;
* `commented_line`, `commented_block`: the two kinds of comments;
* `regionLength?_bracket`: the region of a bracket ends with that bracket.
-/

namespace SlideContract.Scan

variable {s base : State} {text more comment : List Char} {index : ℕ} {c : Char}

/-! ## Comments -/

lemma blockLength_le (text : List Char) : blockLength text ≤ text.length := by
  fun_induction blockLength text with
  | case1 => exact Nat.le_refl 0
  | case2 rest => simp
  | case3 d rest h ih => simpa using ih

lemma commentLength_le (text : List Char) : commentLength text ≤ text.length := by
  fun_cases commentLength text with
  | case1 rest =>
    have htake := (List.takeWhile_prefix (fun c => decide (c ≠ '\n')) (l := rest)).length_le
    simpa using htake
  | case2 rest => simpa using blockLength_le rest
  | case3 => exact Nat.zero_le _

/-- What stands behind the end of a comment does not matter for its length. -/
lemma blockLength_append (h : blockLength (text ++ more) ≤ text.length) :
    blockLength text = blockLength (text ++ more) := by
  induction text with
  | nil => exact (Nat.le_zero.1 h).symm
  | cons c rest ih =>
    -- the block ends right here, or it goes on over `c` in the text and in the longer one
    by_cases hends : c = '*' ∧ (rest ++ more).head? = some '/'
    · obtain ⟨rfl, hhead⟩ := hends
      cases rest with
      | nil =>
        obtain ⟨behind, rfl⟩ := List.head?_eq_some_iff.1 hhead
        exact absurd h (by simp [blockLength])
      | cons d rest =>
        rw [Option.some.inj (show some d = some '/' from hhead)]
        rfl
    · have hblock : ∀ {text : List Char}, ¬ (c = '*' ∧ text.head? = some '/') →
          blockLength (c :: text) = blockLength text + 1 := by
        intro text hopen
        rw [blockLength]
        rintro behind rfl rfl
        exact hopen ⟨rfl, rfl⟩
      rw [List.cons_append, hblock hends, List.length_cons] at h
      rw [List.cons_append, hblock hends, hblock fun hhead => hends ?_,
        ih (Nat.le_of_succ_le_succ h)]
      obtain ⟨behind, rfl⟩ := List.head?_eq_some_iff.1 hhead.2
      exact ⟨hhead.1, rfl⟩

lemma commentLength_append (h : commentLength (text ++ more) ≤ text.length) :
    commentLength text = commentLength (text ++ more) := by
  fun_cases commentLength text with
  | case1 rest =>
    have hle : ((rest ++ more).takeWhile (· ≠ '\n')).length ≤ rest.length :=
      Nat.le_of_add_le_add_right h
    -- a line comment that reaches the end of the text without its break has no room to go on
    have hline : rest.takeWhile (· ≠ '\n') = (rest ++ more).takeWhile (· ≠ '\n') := by
      rw [List.takeWhile_append] at hle ⊢
      split at hle
      · rename_i hall
        rw [List.length_append] at hle
        rw [if_pos hall, List.eq_nil_of_length_eq_zero (by omega : (more.takeWhile _).length = 0),
          List.append_nil]
        exact (List.takeWhile_prefix _).eq_of_length hall
      · rename_i hsome
        rw [if_neg hsome]
    show (rest.takeWhile (· ≠ '\n')).length + 2 = ((rest ++ more).takeWhile (· ≠ '\n')).length + 2
    rw [hline]
  | case2 rest =>
    have hle : blockLength (rest ++ more) ≤ rest.length := Nat.le_of_add_le_add_right h
    show blockLength rest + 2 = blockLength (rest ++ more) + 2
    rw [blockLength_append hle]
  | case3 _ hline hblock =>
    cases text with
    | nil => exact (Nat.le_zero.1 h).symm
    | cons c rest =>
      -- an opening that needs a character from behind is longer than the text
      symm
      rw [List.cons_append, commentLength_eq_zero_iff]
      rintro ⟨rfl, hhead⟩
      cases rest with
      | nil =>
        rcases hhead with hhead | hhead
        · obtain ⟨behind, rfl⟩ := List.head?_eq_some_iff.1 hhead
          exact absurd h (by simp [commentLength])
        · obtain ⟨behind, rfl⟩ := List.head?_eq_some_iff.1 hhead
          exact absurd h (by simp [commentLength])
      | cons d rest =>
        rcases hhead with hhead | hhead
        · exact hline rest (by rw [Option.some.inj (show some d = some '/' from hhead)])
        · exact hblock rest (by rw [Option.some.inj (show some d = some '*' from hhead)])

/-- No comment opens at a character in front of the beginning of a text either. -/
lemma commentLength_front_cons (h : s.quote = none → commentLength (c :: (text ++ more)) = 0)
    (hcode : s.quote = none) : commentLength (c :: text) = 0 := by
  have hzero := h hcode
  rw [← List.cons_append] at hzero
  rw [commentLength_append (by rw [hzero]; exact Nat.zero_le _), hzero]

/-- A comment in front of a text ends in front of the beginning of that text as well. -/
lemma commentLength_front (h : commentLength (comment ++ (text ++ more)) = comment.length) :
    commentLength (comment ++ text) = comment.length := by
  rw [← List.append_assoc] at h
  rw [commentLength_append (by rw [h, List.length_append]; exact Nat.le_add_right _ _), h]

/-- A comment is skipped. -/
lemma visits_comment (hcode : s.quote = none) (hne : comment ≠ [])
    (h : commentLength (comment ++ text) = comment.length) (index : ℕ) :
    visits s index (comment ++ text) = visits s (index + comment.length) text := by
  cases comment with
  | nil => exact absurd rfl hne
  | cons c rest =>
    rw [List.cons_append] at h ⊢
    rw [visits]
    simp only [hcode, Option.isNone_none, if_true, h]
    rw [dif_neg (by simp), ← List.cons_append, List.drop_left]

/-- A text is empty, or a character is visited first, or a comment stands first. -/
lemma walk_induction {motive : State → List Char → Prop} (nil : ∀ s, motive s [])
    (visited : ∀ s c text, (s.quote = none → commentLength (c :: text) = 0) →
      motive (s.advance c) text → motive s (c :: text))
    (skipped : ∀ s comment text, s.quote = none → comment ≠ [] →
      commentLength (comment ++ text) = comment.length → motive s text → motive s (comment ++ text))
    (s : State) (text : List Char) : motive s text := by
  -- the induction is on the length, since a comment is skipped as a whole
  induction hlength : text.length using Nat.strongRecOn generalizing s text with
  | ind n ih =>
    cases text with
    | nil => exact nil s
    | cons c rest =>
      by_cases h : s.quote = none → commentLength (c :: rest) = 0
      · exact visited s c rest h (ih rest.length (by simp [← hlength]) _ rest rfl)
      · obtain ⟨hcode, hpos⟩ := Classical.not_imp.1 h
        set n := commentLength (c :: rest) with hn
        have hle : n ≤ (c :: rest).length := commentLength_le _
        have htake : ((c :: rest).take n).length = n := List.length_take_of_le hle
        have hdrop : ((c :: rest).drop n).length < (c :: rest).length := by
          rw [List.length_drop, List.length_cons]
          omega
        have hsplit := List.take_append_drop n (c :: rest)
        rw [← hsplit]
        refine skipped s _ _ hcode (fun hnil => ?_) ?_ (ih _ (hlength ▸ hdrop) s _ rfl)
        · rw [hnil, List.length_nil] at htake
          exact hpos htake.symm
        · rw [hsplit, htake]

/-! ## Texts without their comments -/

/-- The text without its comments, scanned from the state on. -/
def shed (s : State) (text : List Char) : List Char := (visits s 0 text).map (·.char)

@[simp] lemma shed_nil (s : State) : shed s [] = [] := by
  rw [shed, visits, List.map_nil]

/-- Where a walk begins does not matter for what it visits. -/
lemma map_char_visits (s : State) (index : ℕ) (text : List Char) :
    (visits s index text).map (·.char) = shed s text := by
  -- the walk goes on at other indexes, so that all of them are compared at once
  have hshift : ∀ index other, (visits s index text).map (·.char)
      = (visits s other text).map (·.char) := by
    induction s, text using walk_induction with
    | nil s => exact fun index other => by rw [visits, visits]
    | visited s c text h ih =>
      intro index other
      rw [visits_cons h, visits_cons h, List.map_cons, List.map_cons, ih (index + 1) (other + 1)]
      rfl
    | skipped s comment text hcode hne h ih =>
      intro index other
      rw [visits_comment hcode hne h, visits_comment hcode hne h]
      exact ih _ _
  exact hshift index 0

lemma shed_cons (h : s.quote = none → commentLength (c :: text) = 0) :
    shed s (c :: text) = c :: shed (s.advance c) text := by
  rw [shed, visits_cons h, List.map_cons, map_char_visits]
  rfl

lemma shed_comment (hcode : s.quote = none) (hne : comment ≠ [])
    (h : commentLength (comment ++ text) = comment.length) :
    shed s (comment ++ text) = shed s text := by
  rw [shed, visits_comment hcode hne h, map_char_visits]

lemma shed_of_plain (h : Plain s text) : shed s text = text := by
  rw [shed, visits_of_plain h, trace_char]

/-- A comment opens with a slash. -/
lemma head?_comment (hne : comment ≠ []) (h : commentLength (comment ++ text) = comment.length) :
    comment.head? = some '/' := by
  cases comment with
  | nil => exact absurd rfl hne
  | cons c rest =>
    by_contra hc
    have hzero := (@commentLength_eq_zero_iff c (rest ++ text)).2 fun hslash =>
      hc (by rw [hslash.1]; rfl)
    rw [List.cons_append, hzero] at h
    exact absurd h (by simp)

/-- What comes first is visited, unless a comment stands there. -/
lemma head?_shed (h : text.head? ≠ some '/') : (shed s text).head? = text.head? := by
  induction s, text using walk_induction with
  | nil s => rw [shed_nil]
  | visited s c text hc ih => rw [shed_cons hc]; rfl
  | skipped s comment text hcode hne hcomment ih =>
    rw [List.head?_append, head?_comment hne hcomment] at h
    exact absurd rfl h

/-- No comment opens in a text that lost its comments: a slash in code is not followed by a comment,
since the two would have opened one. -/
theorem plain_shed (s : State) (text : List Char) : Plain s (shed s text) := by
  induction s, text using walk_induction with
  | nil s => rw [shed_nil]; trivial
  | visited s c text hc ih =>
    rw [shed_cons hc]
    refine ⟨fun hcode => ?_, ih⟩
    have hzero := hc hcode
    rw [commentLength_eq_zero_iff] at hzero ⊢
    rintro ⟨rfl, hhead⟩
    have hslash : text.head? ≠ some '/' := fun hslash => hzero ⟨rfl, Or.inl hslash⟩
    rw [head?_shed hslash] at hhead
    exact hzero ⟨rfl, hhead⟩
  | skipped s comment text hcode hne hcomment ih => rwa [shed_comment hcode hne hcomment]

/-- A text that lost its comments has none to lose. -/
theorem stripComments_stripComments (text : List Char) :
    stripComments (stripComments text) = stripComments text :=
  stripComments_of_plain (plain_shed {} text)

/-! ## Visits -/

/-- A visit is of a character of the text, in the state behind what stands before it without
comments. -/
lemma exists_of_mem_visits {v : Visit} (h : v ∈ visits s index text) :
    ∃ before c behind, text = before ++ c :: behind ∧
      v = visit (s.run (shed s before)) (index + before.length) c ∧
      shed s text = shed s before ++ shed (s.run (shed s before)) (c :: behind) ∧
      shed (s.run (shed s before)) (c :: behind)
        = c :: shed ((s.run (shed s before)).advance c) behind := by
  induction s, text using walk_induction generalizing index with
  | nil s =>
    rw [visits] at h
    exact absurd h List.not_mem_nil
  | visited s c text hc ih =>
    rw [visits_cons hc] at h
    rcases List.mem_cons.1 h with rfl | h
    · exact ⟨[], c, text, rfl, by simp, by simp, by simpa using shed_cons hc⟩
    · obtain ⟨before, d, behind, rfl, rfl, hshed, hvisited⟩ := ih h
      -- no comment opens at `c` in the part that ends before the visit either
      have hfront : shed s (c :: before) = c :: shed (s.advance c) before :=
        shed_cons (commentLength_front_cons hc)
      refine ⟨c :: before, d, behind, rfl, ?_, ?_, ?_⟩
      · rw [hfront, State.run_cons, List.length_cons, Nat.add_assoc, Nat.add_comm 1]
      · rw [hfront, State.run_cons, shed_cons hc, hshed, List.cons_append]
      · rw [hfront, State.run_cons, hvisited]
  | skipped s comment text hcode hne hcomment ih =>
    rw [visits_comment hcode hne hcomment] at h
    obtain ⟨before, d, behind, rfl, rfl, hshed, hvisited⟩ := ih h
    have hfront : shed s (comment ++ before) = shed s before :=
      shed_comment hcode hne (commentLength_front hcomment)
    refine ⟨comment ++ before, d, behind, by rw [List.append_assoc], ?_, ?_, ?_⟩
    · rw [hfront, List.length_append, Nat.add_assoc]
    · rw [hfront, shed_comment hcode hne hcomment, hshed]
    · rw [hfront, hvisited]

lemma visits_raise (base s : State) (index : ℕ) (text : List Char) :
    visits (base.raise s) index text = (visits s index text).map (·.raise base) := by
  induction s, text using walk_induction generalizing index with
  | nil s => rw [visits, visits, List.map_nil]
  | visited s c text hc ih =>
    rw [@visits_cons (base.raise s) c text hc, visits_cons hc, List.map_cons, State.advance_raise,
      ih]
    simp only [visit, Visit.raise, State.advance_raise]
    rfl
  | skipped s comment text hcode hne hcomment ih =>
    rw [@visits_comment (base.raise s) _ _ hcode hne hcomment, visits_comment hcode hne hcomment,
      ih]

lemma shed_raise (base s : State) (text : List Char) : shed (base.raise s) text = shed s text := by
  rw [shed, visits_raise, List.map_map]
  rfl

/-! ## Comments that end -/

/-- No comment of the text, scanned from the state on, runs on behind it. -/
def Ended (s : State) (text : List Char) : Prop :=
  ∀ index more, Joins (shed s text) more → visits s index (text ++ more)
    = visits s index text ++ visits (s.run (shed s text)) (index + text.length) more

lemma ended_of_plain (h : Plain s text) : Ended s text := by
  intro index more hjoins
  rw [shed_of_plain h] at hjoins ⊢
  rw [visits_append h hjoins, visits_of_plain h]

lemma Ended.shed_append (h : Ended s text) (hjoins : Joins (shed s text) more) :
    shed s (text ++ more) = shed s text ++ shed (s.run (shed s text)) more := by
  rw [shed, h 0 more hjoins, List.map_append, map_char_visits, map_char_visits]

lemma Ended.append (h : Ended s text) (hmore : Ended (s.run (shed s text)) more)
    (hjoins : Joins (shed s text) more) : Ended s (text ++ more) := by
  intro index rest hrest
  rw [h.shed_append hjoins] at hrest ⊢
  -- what comes next to the first text is the second one, or `rest` if that is empty
  have htext : Joins (shed s text) (more ++ rest) := by
    cases more with
    | nil => rwa [shed_nil, List.append_nil] at hrest
    | cons c more => exact hjoins
  have hmore' : Joins (shed (s.run (shed s text)) more) rest := by
    intro hlast
    apply hrest
    rw [List.getLast?_append, hlast]
    rfl
  rw [List.append_assoc, h index _ htext, h index _ hjoins, hmore _ _ hmore', State.run_append,
    List.length_append, List.append_assoc, Nat.add_assoc]

lemma Ended.raise (h : Ended s text) (base : State) : Ended (base.raise s) text := by
  intro index more hjoins
  rw [shed_raise] at hjoins ⊢
  rw [visits_raise, h index more hjoins, List.map_append, ← visits_raise, ← visits_raise,
    State.run_raise]

/-- A comment in front, if it ends there whatever comes behind. -/
lemma Ended.behind_comment (hcode : s.quote = none) (hne : comment ≠ [])
    (hcomment : ∀ more, commentLength (comment ++ (text ++ more)) = comment.length)
    (h : Ended s text) : Ended s (comment ++ text) := by
  intro index more hjoins
  have htext : commentLength (comment ++ text) = comment.length := by
    simpa using hcomment []
  rw [shed_comment hcode hne htext] at hjoins ⊢
  rw [List.append_assoc, visits_comment hcode hne (hcomment more), visits_comment hcode hne htext,
    h _ more hjoins, List.length_append, Nat.add_assoc]

/-- In code it does not matter how deep the scan stands. -/
lemma shed_of_isCode (h : s.IsCode) (text : List Char) : shed s text = shed {} text := by
  have hraise := shed_raise s {} text
  rwa [State.raise_empty h] at hraise

/-- A character that leaves the scan as it is keeps its place in front. -/
lemma shed_cons_still (h : IsStill c) (text : List Char) :
    shed {} (c :: text) = c :: shed {} text := by
  rw [shed_cons fun _ => h.commentLength text, h.1]

lemma shed_still {front : List Char} (h : ∀ c ∈ front, IsStill c) (hcode : s.IsCode)
    (text : List Char) : shed s (front ++ text) = front ++ shed s text := by
  rw [shed_of_isCode hcode, shed_of_isCode hcode]
  induction front with
  | nil => rfl
  | cons c rest ih =>
    rw [List.cons_append, shed_cons_still (h c List.mem_cons_self),
      ih fun d hd => h d (List.mem_cons_of_mem _ hd), List.cons_append]

lemma stripComments_still {front : List Char} (h : ∀ c ∈ front, IsStill c) (text : List Char) :
    stripComments (front ++ text) = front ++ stripComments text :=
  shed_still h State.isCode_empty text

/-- The code of a text is code of the text without comments. -/
lemma exists_of_mem_codeOffsets (h : index ∈ codeOffsets text) :
    ∃ before c behind, text = before ++ c :: behind ∧ before.length = index ∧
      (State.run {} (shed {} before)).quote = none ∧
      shed {} text = shed {} before ++ shed (State.run {} (shed {} before)) (c :: behind) ∧
      (shed (State.run {} (shed {} before)) (c :: behind)).head? = some c := by
  obtain ⟨v, hv, rfl⟩ := List.mem_map.1 h
  obtain ⟨hmem, hout⟩ := List.mem_filter.1 hv
  obtain ⟨before, c, behind, rfl, rfl, hshed, hvisited⟩ := exists_of_mem_visits hmem
  have hboth : ((State.run {} (shed {} before)).quote.isNone && !isQuote c) = true := hout
  rw [Bool.and_eq_true, Option.isNone_iff_eq_none] at hboth
  exact ⟨before, c, behind, rfl, (Nat.zero_add _).symm, hboth.1, hshed, by rw [hvisited]; rfl⟩

/-- A text whose comments end inside it and that is balanced without them. -/
structure Commented (text : List Char) : Prop where
  ended : Ended {} text
  balanced : Balanced (stripComments text)

lemma Balanced.commented (h : Balanced text) : Commented text where
  ended := ended_of_plain h.plain
  balanced := by
    rw [stripComments_of_plain h.plain]
    exact h

/-- A line comment leaves its line break. -/
lemma commented_line {line : List Char} (hline : '\n' ∉ line) :
    Commented ('/' :: '/' :: (line ++ ['\n'])) ∧
      stripComments ('/' :: '/' :: (line ++ ['\n'])) = ['\n'] := by
  have hall : ∀ c ∈ line, decide (c ≠ '\n') = true := by
    intro c hc
    rw [decide_eq_true_eq]
    rintro rfl
    exact hline hc
  have hlength : ∀ more, commentLength ('/' :: '/' :: line ++ (['\n'] ++ more))
      = ('/' :: '/' :: line).length := by
    intro more
    show ((line ++ '\n' :: more).takeWhile (· ≠ '\n')).length + 2 = line.length + 2
    rw [List.takeWhile_append_of_pos hall, List.takeWhile_cons]
    simp
  have hbreak : Balanced ['\n'] := .char rfl
  have hstrip : stripComments ('/' :: '/' :: (line ++ ['\n'])) = ['\n'] := by
    have hcomment := @shed_comment {} ['\n'] ('/' :: '/' :: line) rfl (by simp) (hlength [])
    rwa [shed_of_plain hbreak.plain] at hcomment
  refine ⟨⟨?_, by rwa [hstrip]⟩, hstrip⟩
  exact .behind_comment rfl (by simp) hlength (ended_of_plain hbreak.plain)

/-- No block is closed at a character whose rest holds no closing mark, nor in that rest. -/
lemma blockLength_cons_of_unclosed {rest : List Char} (h : ¬ ['*', '/'] <:+: c :: rest)
    {more : List Char} (hmore : rest = [] → c = '*' → more.head? ≠ some '/') :
    blockLength (c :: (rest ++ more)) = blockLength (rest ++ more) + 1 := by
  rw [blockLength]
  rintro behind rfl hbehind
  cases rest with
  | nil => exact hmore rfl rfl (by rw [show more = '/' :: behind from hbehind]; rfl)
  | cons d rest =>
    obtain ⟨rfl, -⟩ := List.cons.inj hbehind
    exact h ⟨[], rest, rfl⟩

/-- A block comment ends with its first closing mark. -/
lemma blockLength_closed {block : List Char} (h : ¬ ['*', '/'] <:+: block) (more : List Char) :
    blockLength (block ++ '*' :: '/' :: more) = block.length + 2 := by
  induction block with
  | nil => rfl
  | cons c rest ih =>
    rw [List.cons_append, blockLength_cons_of_unclosed h (by simp),
      ih fun hrest => h (List.infix_cons hrest), List.length_cons]

/-- A block comment without a closing mark ends with the text. -/
lemma blockLength_unclosed {block : List Char} (h : ¬ ['*', '/'] <:+: block) :
    blockLength block = block.length := by
  induction block with
  | nil => rfl
  | cons c rest ih =>
    have hcons := @blockLength_cons_of_unclosed c rest h [] (by simp)
    rw [List.append_nil] at hcons
    rw [hcons, ih fun hrest => h (List.infix_cons hrest), List.length_cons]

/-- A block comment ends with its first closing mark and leaves nothing. -/
lemma commented_block {block : List Char} (hunclosed : ¬ ['*', '/'] <:+: block) :
    Commented ('/' :: '*' :: (block ++ ['*', '/'])) ∧
      stripComments ('/' :: '*' :: (block ++ ['*', '/'])) = [] := by
  have hlength : ∀ more, commentLength ('/' :: '*' :: (block ++ ['*', '/']) ++ ([] ++ more))
      = ('/' :: '*' :: (block ++ ['*', '/'])).length := by
    intro more
    have htail : block ++ ['*', '/'] ++ ([] ++ more) = block ++ '*' :: '/' :: more := by simp
    show blockLength (block ++ ['*', '/'] ++ ([] ++ more)) + 2 = (block ++ ['*', '/']).length + 2
    rw [htail, blockLength_closed hunclosed, List.length_append]
    rfl
  have hnil := List.append_nil ('/' :: '*' :: (block ++ ['*', '/']))
  have hstrip : stripComments ('/' :: '*' :: (block ++ ['*', '/'])) = [] := by
    have hcomment := @shed_comment {} [] ('/' :: '*' :: (block ++ ['*', '/'])) rfl (by simp)
      (hlength [])
    rwa [hnil, shed_nil] at hcomment
  have hended : Ended {} ('/' :: '*' :: (block ++ ['*', '/']) ++ []) :=
    .behind_comment rfl (by simp) hlength (ended_of_plain trivial)
  rw [hnil] at hended
  exact ⟨⟨hended, by rw [hstrip]; exact .nil⟩, hstrip⟩

/-! ## Brackets -/

variable {opener closer : Char}

namespace Commented

/-- The visits of such a text in code are those of the text alone, raised. -/
lemma visits_eq (h : Commented text) (hcode : s.IsCode) (hfollows : Follows more) (index : ℕ) :
    visits s index (text ++ more)
      = (visits {} index text).map (·.raise s) ++ visits s (index + text.length) more := by
  have hraise := h.ended.raise s index more (hfollows.joins _)
  rw [State.raise_empty hcode] at hraise
  have hrun : s.run (shed {} text) = s := h.balanced.run_eq hcode
  have hshed := shed_raise s {} text
  have hvisits := visits_raise s {} index text
  rw [State.raise_empty hcode] at hshed hvisits
  rw [hraise, hshed, hrun, hvisits]

lemma stripComments_append (h : Commented text) (hjoins : Joins (stripComments text) more) :
    stripComments (text ++ more) = stripComments text ++ stripComments more := by
  have hfinal : State.run {} (shed {} text) = {} := h.balanced.final
  have happend := h.ended.shed_append hjoins
  rwa [hfinal] at happend

lemma append (h : Commented text) (hmore : Commented more) (hfollows : Follows more) :
    Commented (text ++ more) where
  ended := by
    have hfinal : State.run {} (shed {} text) = {} := h.balanced.final
    refine h.ended.append ?_ (hfollows.joins _)
    rw [hfinal]
    exact hmore.ended
  balanced := by
    have hhead : (stripComments more).head? = more.head? := head?_shed hfollows.1
    rw [h.stripComments_append (hfollows.joins _)]
    refine h.balanced.append hmore.balanced ⟨?_, ?_⟩
    · rw [hhead]
      exact hfollows.1
    · rw [hhead]
      exact hfollows.2

lemma cons (hc : IsStill c) (h : Commented text) : Commented (c :: text) where
  ended := by
    intro index more hjoins
    rw [shed_cons_still hc] at hjoins ⊢
    have htext : Joins (shed {} text) more := by
      intro hlast
      apply hjoins
      rw [List.getLast?_cons, hlast]
      rfl
    rw [List.cons_append, visits_cons fun _ => hc.commentLength _,
      visits_cons fun _ => hc.commentLength _, hc.1, h.ended _ more htext, State.run_cons, hc.1,
      List.cons_append, List.length_cons, Nat.add_assoc, Nat.add_comm 1]
  balanced := by
    rw [show stripComments (c :: text) = c :: stripComments text from shed_cons_still hc text]
    exact .cons hc.1 hc.2 h.balanced

lemma still {front : List Char} (h : ∀ c ∈ front, IsStill c) (htext : Commented text) :
    Commented (front ++ text) := by
  induction front with
  | nil => exact htext
  | cons c rest ih =>
    exact .cons (h c List.mem_cons_self) (ih fun d hd => h d (List.mem_cons_of_mem _ hd))

/-- No bracket is closed in such a text that is not opened in it. -/
lemma closes (h : Commented text) {v : Visit} (hv : v ∈ visits {} index text) :
    v.after.unbalanced = false := by
  obtain ⟨before, c, behind, -, rfl, hshed, hvisited⟩ := exists_of_mem_visits hv
  rw [hvisited] at hshed
  have hafter := h.balanced.closes 0 _ (mem_trace.2 ⟨_, c, _, hshed, rfl⟩)
  exact hafter

end Commented

/-- The visits of a bracket around a text, and on behind it. -/
lemma visits_bracket (h : closer? opener = some closer) (htext : Commented text)
    (hcode : (s.advance opener).IsCode) (index : ℕ) :
    visits s index (opener :: (text ++ closer :: more))
      = visit s index opener ::
        ((visits {} (index + 1) text).map (·.raise (s.advance opener)) ++
          visit (s.advance opener) (index + 1 + text.length) closer ::
            visits ((s.advance opener).advance closer) (index + 1 + text.length + 1) more) := by
  obtain ⟨-, hslash, hslash', hstar, -⟩ := bracket_chars h
  have hopener : commentLength (opener :: (text ++ closer :: more)) = 0 := by
    rw [commentLength_eq_zero_iff]
    exact fun hc => hslash hc.1
  have hcloser : commentLength (closer :: more) = 0 := by
    rw [commentLength_eq_zero_iff]
    exact fun hc => hslash' hc.1
  have hfollows : Follows (closer :: more) := ⟨by simpa using hslash', by simpa using hstar⟩
  rw [visits_cons fun _ => hopener, htext.visits_eq hcode hfollows, visits_cons fun _ => hcloser]

/-- A bracket keeps its place around such a text. -/
lemma Commented.stripComments_bracket (h : closer? opener = some closer)
    (htext : Commented text) :
    stripComments (opener :: (text ++ [closer])) = opener :: (stripComments text ++ [closer]) := by
  obtain ⟨hcode, -, -, -⟩ := bracket_states h
  obtain ⟨-, hslash, hslash', hstar, -⟩ := bracket_chars h
  have hjoins : Joins (shed (State.advance {} opener) text) [closer] :=
    Follows.joins ⟨by simpa using hslash', by simpa using hstar⟩ _
  have hended : Ended (State.advance {} opener) text := by
    rw [← State.raise_empty hcode]
    exact htext.ended.raise _
  have hcloser : ∀ s, shed s [closer] = [closer] := fun s =>
    shed_of_plain ⟨fun _ => commentLength_eq_zero_iff.2 fun hc => hslash' hc.1, trivial⟩
  have hcons := @shed_cons {} (text ++ [closer]) opener fun _ =>
    commentLength_eq_zero_iff.2 fun hc => hslash hc.1
  rw [hended.shed_append hjoins, hcloser, shed_of_isCode hcode] at hcons
  exact hcons

/-- A bracket around such a text. -/
lemma Commented.bracket (h : closer? opener = some closer) (htext : Commented text) :
    Commented (opener :: (text ++ [closer])) := by
  have hstrip :
      shed {} (opener :: (text ++ [closer])) = opener :: (stripComments text ++ [closer]) :=
    htext.stripComments_bracket h
  have hbalanced := htext.balanced.bracket h
  obtain ⟨hcode, -, -, hclose⟩ := bracket_states h
  refine ⟨fun index more _ => ?_, by rwa [stripComments_bracket h htext]⟩
  have hwhole : opener :: (text ++ [closer]) ++ more = opener :: (text ++ closer :: more) := by simp
  have hnil : ∀ index, visits {} index [] = [] := fun index => by rw [visits]
  rw [hwhole, hstrip, hbalanced.final, visits_bracket h htext hcode, visits_bracket h htext hcode,
    hclose, hnil]
  simp [Nat.add_assoc, Nat.add_comm 1]

/-- Inside a bracket nothing settles its region, since the scan stands above the level there. -/
lemma settles_inside (h : closer? opener = some closer) (htext : Commented text) (index : ℕ) :
    ∀ v ∈ (visits {} index text).map (·.raise (State.advance {} opener)),
      settles closer v = false := by
  intro v hv
  obtain ⟨-, hopen, hlevel, -⟩ := bracket_states h
  obtain ⟨w, hw, rfl⟩ := List.mem_map.1 hv
  have hafter := raise_unbalanced hopen (htext.closes hw)
  have hdeep := raise_isLevel hopen hlevel (htext.closes hw)
  show (_ && (((State.advance {} opener).raise w.after).unbalanced ||
    (_ && (_ && ((State.advance {} opener).raise w.after).isLevel)))) = false
  rw [hafter, hdeep]
  simp

lemma settles_opener (h : closer? opener = some closer) :
    settles closer (visit {} 0 opener) = false := by
  obtain ⟨-, hopen, -, -⟩ := bracket_states h
  have hchar : (opener == closer) = false := beq_false_of_ne (bracket_chars h).2.2.2.2
  show (_ && ((State.advance {} opener).unbalanced || ((opener == closer) && _))) = false
  rw [hopen, hchar]
  simp

/-- If nothing between an opener and its closer settles the region, it ends with the closer. -/
lemma regionLength?_of_walk (h : closer? opener = some closer) {inner rest : List Visit}
    (hwalk : walk (opener :: text) = visit {} 0 opener :: (inner ++
      visit (State.advance {} opener) index closer :: rest))
    (hinner : ∀ v ∈ inner, settles closer v = false) :
    regionLength? (opener :: text) = some (index + 1) := by
  obtain ⟨hcode, -, -, hclose⟩ := bracket_states h
  have hout : (visit (State.advance {} opener) index closer).outside = true := by
    show ((State.advance {} opener).quote.isNone && !isQuote closer) = true
    rw [hcode.1, (bracket_chars h).1]
    rfl
  -- behind the closer the scan is where it was before the opener
  have htop : ((State.advance {} opener).advance closer).atTopLevel = true := by
    rw [hclose]
    rfl
  refine (regionLength?_eq_some_iff h).2 ⟨visit {} 0 opener :: inner,
    visit (State.advance {} opener) index closer, rest, hwalk, rfl, hout, rfl, htop, ?_⟩
  intro v hv
  rcases List.mem_cons.1 hv with rfl | hv
  · exact settles_opener h
  · exact hinner v hv

/-- The region of a bracket around a balanced text ends with the closer of the bracket. -/
lemma regionLength?_bracket (h : closer? opener = some closer) (htext : Commented text)
    (more : List Char) :
    regionLength? (opener :: (text ++ closer :: more)) = some (text.length + 2) := by
  rw [regionLength?_of_walk h (visits_bracket h htext (bracket_states h).1 0)
    (settles_inside h htext _)]
  congr 1
  omega

end SlideContract.Scan
