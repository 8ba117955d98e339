import Mathlib.Data.List.TakeWhile
import SlideContract.Proofs.Scan.Comment

/-!
# Removing comments

A scan of a text without its comments sees what a scan of the text sees, character by character, at
other indexes. No slash meets a new partner where a comment stood, since a comment begins with a
slash itself, before which another one would have opened the comment.

What a comment is is said here without the scan, by its two marks and what they enclose.

* `isComment_iff`: the comments that a scan skips are comments in this sense;
* `uncommented_iff`: the text that is left when all comments and nothing else are taken out;
* `seen_stripComments`: removing comments is invisible to a scan.
-/

namespace SlideContract.Scan

variable {s : State} {text rest comment behind : List Char}

/-! ## Comments -/

/-- The text is a comment in front of another: a line comment up to a line break or the end, a block
comment through its first closing mark, or up to the end without one. -/
inductive IsComment : List Char → List Char → Prop
  | line {body behind : List Char} (hbody : '\n' ∉ body) (hbehind : ∀ c ∈ behind.head?, c = '\n') :
    IsComment ('/' :: '/' :: body) behind
  | block {body behind : List Char} (hbody : ¬ ['*', '/'] <:+: body) :
    IsComment ('/' :: '*' :: (body ++ ['*', '/'])) behind
  | unclosed {body : List Char} (hbody : ¬ ['*', '/'] <:+: body) :
    IsComment ('/' :: '*' :: body) []

/-- A block comment that is skipped is closed by its first closing mark, or runs on to the end. -/
lemma blockLength_cases (text : List Char) :
    (∃ body behind, text = body ++ '*' :: '/' :: behind ∧ ¬ ['*', '/'] <:+: body ∧
      blockLength text = body.length + 2) ∨
    ¬ ['*', '/'] <:+: text ∧ blockLength text = text.length := by
  by_cases h : ['*', '/'] <:+: text
  · -- the first of the closing marks is the one with the least text in front
    obtain ⟨before, behind, hsplit⟩ := h
    left
    induction before generalizing text with
    | nil => exact ⟨[], behind, hsplit.symm, by simp, by rw [← hsplit]; rfl⟩
    | cons c before ih =>
      obtain ⟨tail, rfl⟩ : ∃ tail, text = c :: tail := ⟨_, hsplit.symm⟩
      by_cases hclosed : c = '*' ∧ tail.head? = some '/'
      · obtain ⟨rfl, hhead⟩ := hclosed
        obtain ⟨more, rfl⟩ := List.head?_eq_some_iff.1 hhead
        exact ⟨[], more, rfl, by simp, rfl⟩
      · obtain ⟨body, more, rfl, hbody, -⟩ := ih tail (List.cons.inj hsplit).2
        have hcons : ¬ ['*', '/'] <:+: c :: body := by
          rw [List.infix_cons_iff, List.cons_prefix_cons]
          rintro (⟨rfl, hprefix⟩ | hinfix)
          · obtain ⟨more', rfl⟩ := hprefix
            exact hclosed ⟨rfl, rfl⟩
          · exact hbody hinfix
        exact ⟨c :: body, more, rfl, hcons, blockLength_closed hcons more⟩
  · exact Or.inr ⟨h, blockLength_unclosed h⟩

/-- What is skipped is a comment. -/
lemma isComment_take (h : 0 < commentLength text) :
    IsComment (text.take (commentLength text)) (text.drop (commentLength text)) := by
  -- a line comment is read up to the break, a block up to its closing mark, and elsewhere nothing
  -- is skipped
  fun_cases commentLength text with
  | case1 line =>
    set body := line.takeWhile (· ≠ '\n') with hbody
    have hsplit : line = body ++ line.dropWhile (· ≠ '\n') := List.takeWhile_append_dropWhile.symm
    have htake : line.take body.length = body := by
      rw [hsplit, List.take_left]
    have hdrop : line.drop body.length = line.dropWhile (· ≠ '\n') := by
      conv_lhs => rw [hsplit, List.drop_left]
    show IsComment ('/' :: '/' :: line.take body.length) (line.drop body.length)
    rw [htake, hdrop]
    refine .line (fun hbreak => ?_) fun c hc => ?_
    · simpa using List.mem_takeWhile_imp hbreak
    · have hhead := List.head?_dropWhile_not (· ≠ '\n') line
      rw [Option.mem_def.1 hc] at hhead
      simpa using hhead
  | case2 block =>
    show IsComment ('/' :: '*' :: block.take (blockLength block)) (block.drop (blockLength block))
    rcases blockLength_cases block with ⟨body, more, rfl, hbody, hlength⟩ | ⟨hbody, hlength⟩
    · have hsplit : body ++ '*' :: '/' :: more = (body ++ ['*', '/']) ++ more := by simp
      have htwo : body.length + 2 = (body ++ ['*', '/']).length := by simp
      rw [hlength, htwo, hsplit, List.take_left, List.drop_left]
      exact .block hbody
    · rw [hlength, List.take_length, List.drop_length]
      exact .unclosed hbody
  | case3 _ hline hblock =>
    have hzero : commentLength text = 0 := commentLength.eq_3 text hline hblock
    exact absurd h (by rw [hzero]; exact Nat.lt_irrefl 0)

/-- A text is a comment in front of another exactly if that much is skipped. -/
theorem isComment_iff : IsComment comment behind ↔
    comment ≠ [] ∧ commentLength (comment ++ behind) = comment.length := by
  constructor
  · -- a line comment reaches to the line break, a closed block to its end, and an open one to the
    -- end of the text
    rintro (⟨hbody, hbehind⟩ | hbody | hbody)
    · rename_i body
      refine ⟨by simp, ?_⟩
      have hall : ∀ c ∈ body, decide (c ≠ '\n') = true := by
        intro c hc
        rw [decide_eq_true_eq]
        rintro rfl
        exact hbody hc
      have hnone : behind.takeWhile (· ≠ '\n') = [] := by
        cases behind with
        | nil => rfl
        | cons c behind => simp [hbehind c rfl]
      show ((body ++ behind).takeWhile (· ≠ '\n')).length + 2 = body.length + 2
      rw [List.takeWhile_append_of_pos hall, hnone, List.append_nil]
    · rename_i body
      refine ⟨by simp, ?_⟩
      have hsplit : body ++ ['*', '/'] ++ behind = body ++ '*' :: '/' :: behind := by simp
      show blockLength (body ++ ['*', '/'] ++ behind) + 2 = (body ++ ['*', '/']).length + 2
      rw [hsplit, blockLength_closed hbody, List.length_append]
      rfl
    · rename_i body
      refine ⟨by simp, ?_⟩
      rw [List.append_nil]
      show blockLength body + 2 = body.length + 2
      rw [blockLength_unclosed hbody]
  · rintro ⟨hne, hlength⟩
    have hcomment := @isComment_take (comment ++ behind)
      (by rw [hlength]; exact List.length_pos_iff.2 hne)
    rwa [hlength, List.take_left, List.drop_left] at hcomment

/-! ## Texts that lost their comments -/

/-- The second text is what is left of the first, scanned from the state on, when every comment that
opens in code is taken out, and nothing else. -/
inductive Uncommented : State → List Char → List Char → Prop
  | nil {s : State} : Uncommented s [] []
  | kept {s : State} {c : Char} {text rest : List Char}
    (hc : s.quote = none → ∀ comment behind, c :: text = comment ++ behind →
      ¬ IsComment comment behind)
    (h : Uncommented (s.advance c) text rest) : Uncommented s (c :: text) (c :: rest)
  | comment {s : State} {comment text rest : List Char} (hcode : s.quote = none)
    (hcomment : IsComment comment text) (h : Uncommented s text rest) :
    Uncommented s (comment ++ text) rest

/-- No comment opens at a character exactly if none is skipped there. -/
lemma commentLength_eq_zero_iff_forall :
    commentLength text = 0 ↔
      ∀ comment behind, text = comment ++ behind → ¬ IsComment comment behind := by
  constructor
  · rintro h comment behind rfl hcomment
    obtain ⟨hne, hlength⟩ := isComment_iff.1 hcomment
    rw [h] at hlength
    exact hne (List.eq_nil_of_length_eq_zero hlength.symm)
  · intro h
    by_contra hpos
    exact h _ _ (List.take_append_drop _ _).symm (isComment_take (Nat.pos_of_ne_zero hpos))

/-- What a scan keeps of a text is what is left when its comments are taken out. -/
theorem uncommented_iff : Uncommented s text rest ↔ rest = shed s text := by
  constructor
  · intro h
    induction h with
    | nil => exact (shed_nil _).symm
    | kept hc h ih =>
      rw [ih, shed_cons fun hcode => commentLength_eq_zero_iff_forall.2 (hc hcode)]
    | comment hcode hcomment h ih =>
      obtain ⟨hne, hlength⟩ := isComment_iff.1 hcomment
      rw [ih, shed_comment hcode hne hlength]
  · rintro rfl
    -- the other direction goes by the walk's own recursion, whose cases are the rules
    induction s, text using walk_induction with
    | nil s =>
      rw [shed_nil]
      exact .nil
    | visited s c text hc ih =>
      rw [shed_cons hc]
      exact .kept (fun hcode => commentLength_eq_zero_iff_forall.1 (hc hcode)) ih
    | skipped s comment text hcode hne hcomment ih =>
      rw [shed_comment hcode hne hcomment]
      exact .comment hcode (isComment_iff.2 ⟨hne, hcomment⟩) ih

/-! ## What a scan sees -/

/-- What a scan sees at a character, wherever that stands: the character, whether it is code, and
the state behind it. -/
def Visit.seen (v : Visit) : Char × Bool × State := (v.char, v.outside, v.after)

/-- A scan of a text sees what a scan of every character that it keeps sees. -/
lemma map_seen_visits (s : State) (index other : ℕ) (text : List Char) :
    (visits s index text).map Visit.seen = (trace s other (shed s text)).map Visit.seen := by
  induction s, text using walk_induction generalizing index other with
  | nil s => rw [visits, shed_nil]; rfl
  | visited s c text hc ih =>
    rw [visits_cons hc, shed_cons hc, trace, List.map_cons, List.map_cons, ih _ (other + 1)]
    rfl
  | skipped s comment text hcode hne hcomment ih =>
    rw [visits_comment hcode hne hcomment, shed_comment hcode hne hcomment]
    exact ih _ other

/-- What a scan sees of a text without its comments it sees of the text. -/
lemma exists_seen {w : Visit} {other : ℕ} (hw : w ∈ trace s other (shed s text)) (index : ℕ) :
    ∃ u ∈ visits s index text, u.seen = w.seen := by
  rw [← List.mem_map, map_seen_visits s index other text]
  exact List.mem_map_of_mem hw

lemma map_index_trace (s : State) (index : ℕ) (text : List Char) :
    (trace s index text).map (·.index) = List.range' index text.length := by
  induction text generalizing s index with
  | nil => rfl
  | cons c text ih =>
    rw [trace, List.map_cons, ih, List.length_cons, List.range'_succ]
    rfl

/-- A scan sees of a text without its comments what it sees of the text, and visits every character
that is left, so that no new comment and no new string has come about. What is left is the text
without its comments and nothing else, and has none to lose. -/
theorem seen_stripComments (text : List Char) :
    (walk (stripComments text)).map Visit.seen = (walk text).map Visit.seen ∧
      (walk (stripComments text)).map (·.index) = List.range (stripComments text).length ∧
      stripComments (stripComments text) = stripComments text ∧
      ∀ rest, Uncommented {} text rest ↔ rest = stripComments text := by
  have hwalk : walk (stripComments text) = trace {} 0 (stripComments text) :=
    visits_of_plain (plain_shed {} text) 0
  refine ⟨?_, ?_, stripComments_stripComments text, fun rest => uncommented_iff⟩
  · rw [hwalk]
    exact (map_seen_visits {} 0 0 text).symm
  · rw [hwalk, map_index_trace, List.range_eq_range']

end SlideContract.Scan
