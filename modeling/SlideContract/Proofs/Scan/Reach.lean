import SlideContract.Proofs.Scan.Comment

/-!
# Regions with more behind them

What ends before the end of a text ends there whatever stands behind the text: a comment that has
ended does not run on, and a bracket that is closed by the last character stays closed by it.

* `commentLength_append_of_lt`: a comment that ends before the end of a text;
* `visits_through`: a walk up to a visit does not depend on what stands behind it;
* `ended_of_mem_visits`, `ended_of_visit_behind`: a text whose last character is visited, or one
  behind it;
* `regionLength?_through`: a region that closes.
-/

namespace SlideContract.Scan

variable {text more : List Char} {s : State} {index : ℕ} {v : Visit}

/-- A block comment that ends before the end of a text. -/
lemma blockLength_append_of_lt (h : blockLength text < text.length) :
    blockLength (text ++ more) = blockLength text := by
  fun_induction blockLength text with
  | case1 => exact absurd h (Nat.not_lt_zero _)
  | case2 rest => simp [blockLength]
  | case3 d rest hopen ih =>
    rw [List.length_cons, Nat.add_lt_add_iff_right] at h
    rw [List.cons_append, blockLength, ih h]
    -- no closing mark comes about behind the end, since the block goes on from here
    rintro behind rfl hbehind
    cases rest with
    | nil => exact absurd h (Nat.not_lt_zero _)
    | cons c rest =>
      obtain ⟨rfl, -⟩ := List.cons.inj hbehind
      exact hopen rest rfl rfl

/-- A comment that ends before the end of a text, or none at the front of two characters. -/
lemma commentLength_append_of_lt (h : commentLength text < text.length) (htwo : 2 ≤ text.length) :
    commentLength (text ++ more) = commentLength text := by
  fun_cases commentLength text with
  | case1 rest =>
    have hle : (rest.takeWhile (· ≠ '\n')).length < rest.length := by
      rw [commentLength, List.length_cons, List.length_cons] at h
      omega
    show ((rest ++ more).takeWhile (· ≠ '\n')).length + 2 = (rest.takeWhile (· ≠ '\n')).length + 2
    rw [List.takeWhile_append, if_neg (Nat.ne_of_lt hle)]
  | case2 rest =>
    have hlt : blockLength rest < rest.length := by
      rw [commentLength, List.length_cons, List.length_cons] at h
      omega
    show blockLength (rest ++ more) + 2 = blockLength rest + 2
    rw [blockLength_append_of_lt hlt]
  | case3 _ hline hblock =>
    obtain ⟨c, tail, rfl⟩ := List.exists_cons_of_length_pos (Nat.zero_lt_of_lt htwo)
    obtain ⟨d, rest, rfl⟩ := List.exists_cons_of_length_pos (Nat.le_of_succ_le_succ htwo)
    rw [List.cons_append, List.cons_append, commentLength_eq_zero_iff]
    rintro ⟨rfl, hhead | hhead⟩
    · exact hline rest (by rw [Option.some.inj (show some d = some '/' from hhead)])
    · exact hblock rest (by rw [Option.some.inj (show some d = some '*' from hhead)])

/-- A comment with some text behind it ends there whatever stands behind that text. -/
lemma commentLength_through {comment : List Char} (hne : comment ≠ []) (htext : text ≠ [])
    (h : commentLength (comment ++ text) = comment.length) (more : List Char) :
    commentLength (comment ++ (text ++ more)) = comment.length := by
  have hcomment := List.length_pos_iff.2 hne
  have hlength := List.length_pos_iff.2 htext
  rw [← List.append_assoc, commentLength_append_of_lt ?_ ?_, h]
  · rw [h, List.length_append]
    omega
  · rw [List.length_append]
    omega

/-- Up to a visit of a character that is no slash a walk is the same whatever stands behind that
character. -/
lemma visits_through {front rest : List Visit} (h : visits s index text = front ++ v :: rest)
    (hslash : v.char ≠ '/') :
    ∃ before behind, text = before ++ v.char :: behind ∧ v.index = index + before.length ∧
      ∀ more, visits s index (before ++ v.char :: more)
        = front ++ v :: visits v.after (v.index + 1) more := by
  -- by the walk's own recursion, with the visits in front of `v` split off as the walk makes them
  induction s, text using walk_induction generalizing index front with
  | nil s =>
    rw [visits] at h
    exact absurd h (by simp)
  | visited s c text hc ih =>
    rw [visits_cons hc] at h
    cases front with
    | nil =>
      obtain ⟨rfl, rfl⟩ := List.cons.inj h
      exact ⟨[], text, rfl, rfl, fun more =>
        visits_cons (fun _ => commentLength_eq_zero_iff.2 fun hc => hslash hc.1) index⟩
    | cons w front =>
      obtain ⟨rfl, hrest⟩ := List.cons.inj h
      obtain ⟨before, behind, rfl, hindex, hwalk⟩ := ih hrest
      refine ⟨c :: before, behind, rfl, ?_, fun more => ?_⟩
      · rw [hindex, List.length_cons, Nat.add_assoc, Nat.add_comm 1]
      · -- whether a comment opens at `c` is settled by the character behind it
        have hhead : (before ++ v.char :: more).head? = (before ++ v.char :: behind).head? := by
          cases before <;> rfl
        have hmore : s.quote = none → commentLength (c :: (before ++ v.char :: more)) = 0 := by
          intro hcode
          have hzero := hc hcode
          rw [commentLength_eq_zero_iff] at hzero ⊢
          rwa [hhead]
        rw [List.cons_append, visits_cons hmore, hwalk, List.cons_append]
  | skipped s comment text hcode hne hcomment ih =>
    rw [visits_comment hcode hne hcomment] at h
    obtain ⟨before, behind, rfl, hindex, hwalk⟩ := ih h
    refine ⟨comment ++ before, behind, by rw [List.append_assoc], ?_, fun more => ?_⟩
    · rw [hindex, List.length_append, Nat.add_assoc]
    · have hbefore : commentLength (comment ++ (before ++ [v.char])) = comment.length :=
        @commentLength_front (before ++ [v.char]) behind comment (by simpa using hcomment)
      have hmore := commentLength_through hne (by simp) hbefore more
      rw [List.append_assoc, List.singleton_append] at hmore
      rw [List.append_assoc, visits_comment hcode hne hmore, hwalk]

/-- A visited character in front, if two characters tell that no comment opens at it. -/
lemma Ended.cons {c d : Char} {rest : List Char}
    (hc : s.quote = none → commentLength (c :: d :: rest) = 0)
    (h : Ended (s.advance c) (d :: rest)) : Ended s (c :: d :: rest) := by
  intro index more hjoins
  have hmore : s.quote = none → commentLength (c :: (d :: rest ++ more)) = 0 := by
    intro hcode
    have happend := @commentLength_append_of_lt (c :: d :: rest) more
      (by rw [hc hcode]; exact Nat.succ_pos _) (by simp)
    rw [hc hcode] at happend
    exact happend
  rw [shed_cons hc] at hjoins ⊢
  have hjoins' : Joins (shed (s.advance c) (d :: rest)) more := by
    intro hlast
    apply hjoins
    rw [List.getLast?_cons, hlast]
    rfl
  rw [List.cons_append, visits_cons hmore, visits_cons hc, h _ more hjoins', State.run_cons,
    List.length_cons (a := c), List.cons_append, Nat.add_assoc, Nat.add_comm 1]

/-- A text whose last character is visited has ended all of its comments, if no other opens there,
and that character is the last one that it keeps without them. -/
lemma ended_of_mem_visits (hv : v ∈ visits s index text)
    (hlast : v.index + 1 = index + text.length) :
    Ended s text ∧ (shed s text).getLast? = some v.char := by
  -- by the walk's own recursion: behind the last comment there is still a character that is
  -- visited
  induction s, text using walk_induction generalizing index with
  | nil s =>
    rw [visits] at hv
    exact absurd hv List.not_mem_nil
  | visited s c text hc ih =>
    rw [visits_cons hc] at hv
    rw [shed_cons hc, List.getLast?_cons]
    cases text with
    | nil =>
      rw [visits, List.mem_singleton] at hv
      exact ⟨ended_of_plain ⟨hc, trivial⟩, by rw [shed_nil, hv]; rfl⟩
    | cons d rest =>
      rcases List.mem_cons.1 hv with rfl | hv
      · -- the first of two characters is not the last one
        simp only [visit, List.length_cons] at hlast
        omega
      · obtain ⟨hrest, hchar⟩ := ih hv (by simp only [List.length_cons] at hlast ⊢; omega)
        exact ⟨.cons hc hrest, by rw [hchar]; rfl⟩
  | skipped s comment text hcode hne hcomment ih =>
    rw [visits_comment hcode hne hcomment] at hv
    rw [List.length_append] at hlast
    obtain ⟨htext, hchar⟩ := ih hv (by omega)
    have hvisited : text ≠ [] := by
      rintro rfl
      rw [visits] at hv
      exact absurd hv List.not_mem_nil
    refine ⟨.behind_comment hcode hne (commentLength_through hne hvisited hcomment) htext, ?_⟩
    rw [shed_comment hcode hne hcomment, hchar]

/-- A block comment that does not run over a semicolon behind a text runs over nothing. -/
lemma blockLength_of_semicolon (h : blockLength (text ++ [';']) ≤ text.length) (more : List Char) :
    blockLength (text ++ more) = blockLength text := by
  fun_induction blockLength text with
  | case1 => exact absurd h (by simp [blockLength])
  | case2 rest => simp [blockLength]
  | case3 d rest hopen ih =>
    have hrest : rest ≠ [] := by
      rintro rfl
      exact absurd h (by simp [blockLength])
    have hmore : ∀ more behind, d = '*' → rest ++ more = '/' :: behind → False := by
      rintro more behind rfl hbehind
      obtain ⟨c, tail, rfl⟩ := List.exists_cons_of_ne_nil hrest
      obtain ⟨rfl, -⟩ := List.cons.inj hbehind
      exact hopen tail rfl rfl
    rw [List.cons_append, blockLength.eq_3 _ _ (hmore _), List.length_cons] at h
    rw [List.cons_append, blockLength.eq_3 _ _ (hmore _), ih (Nat.le_of_succ_le_succ h)]

/-- A comment that does not run over a semicolon behind it runs over nothing. -/
lemma commentLength_of_semicolon {comment : List Char} (hne : comment ≠ [])
    (h : commentLength (comment ++ [';']) = comment.length) (more : List Char) :
    commentLength (comment ++ more) = comment.length := by
  fun_cases commentLength comment with
  | case1 rest =>
    -- a line comment would run over the semicolon, which is no line break
    have hlength : ((rest ++ [';']).takeWhile (· ≠ '\n')).length + 2 = rest.length + 2 := h
    rw [List.takeWhile_append] at hlength
    split at hlength
    · simp at hlength
    · rename_i hbreak
      exact absurd (Nat.add_right_cancel hlength) hbreak
  | case2 rest =>
    have hlength : blockLength (rest ++ [';']) + 2 = rest.length + 2 := h
    have hle : blockLength (rest ++ [';']) ≤ rest.length := by omega
    show blockLength (rest ++ more) + 2 = rest.length + 2
    rw [blockLength_of_semicolon hle, blockLength_append hle]
    exact hlength
  | case3 _ hline hblock =>
    obtain ⟨c, rest, rfl⟩ := List.exists_cons_of_ne_nil hne
    have hzero : commentLength (c :: (rest ++ [';'])) = 0 := by
      rw [commentLength_eq_zero_iff]
      rintro ⟨rfl, hhead⟩
      cases rest with
      | nil => exact absurd hhead (by decide)
      | cons d rest =>
        rcases hhead with hhead | hhead
        · exact hline rest (by rw [Option.some.inj (show some d = some '/' from hhead)])
        · exact hblock rest (by rw [Option.some.inj (show some d = some '*' from hhead)])
    rw [List.cons_append, hzero] at h
    exact absurd h.symm (by simp)

/-- A text ends its comments if a semicolon behind it is visited. -/
lemma ended_of_visit_behind
    (hv : v ∈ visits s index (text ++ [';'])) (hindex : v.index = index + text.length) :
    Ended s text := by
  -- by the walk's own recursion: a comment that reached the end of `text` would take the
  -- semicolon along
  induction s, text using walk_induction generalizing index with
  | nil s => exact ended_of_plain trivial
  | visited s c text hc ih =>
    have hsemicolon : s.quote = none → commentLength (c :: (text ++ [';'])) = 0 := by
      intro hcode
      have hzero := hc hcode
      rw [commentLength_eq_zero_iff] at hzero ⊢
      rintro ⟨hslash, hhead⟩
      cases text with
      | nil => exact absurd hhead (by decide)
      | cons d rest => exact hzero ⟨hslash, hhead⟩
    rw [List.cons_append, visits_cons hsemicolon] at hv
    rcases List.mem_cons.1 hv with rfl | hv
    · simp [visit] at hindex
    · have htext := ih hv (by rw [hindex, List.length_cons]; omega)
      cases text with
      | nil => exact ended_of_plain ⟨hc, trivial⟩
      | cons d rest => exact .cons hc htext
  | skipped s comment text hcode hne hcomment ih =>
    cases text with
    | nil =>
      rw [List.append_nil] at hv hcomment hindex ⊢
      have hle := commentLength_le (comment ++ [';'])
      by_cases hwhole : commentLength (comment ++ [';']) = (comment ++ [';']).length
      · -- the comment would swallow the semicolon
        have hskip := @visits_comment s [] (comment ++ [';']) hcode (by simp)
          (by rwa [List.append_nil]) index
        rw [List.append_nil, visits] at hskip
        rw [hskip] at hv
        exact absurd hv List.not_mem_nil
      · rw [List.length_append, List.length_singleton] at hle hwhole
        have hclosed := commentLength_append (show commentLength (comment ++ [';']) ≤ comment.length
          by omega)
        have hmore := commentLength_of_semicolon hne (hclosed.symm.trans hcomment)
        have hended := @Ended.behind_comment s [] comment hcode hne hmore (ended_of_plain trivial)
        rwa [List.append_nil] at hended
    | cons c text =>
      have hmore := commentLength_through hne (List.cons_ne_nil c text) hcomment
      rw [List.append_assoc, visits_comment hcode hne (hmore _)] at hv
      refine .behind_comment hcode hne hmore (ih hv ?_)
      rw [hindex, List.length_append, Nat.add_assoc]

/-- A region is the same whatever stands behind its closer. -/
lemma regionLength?_through {opener closer : Char} (hopener : closer? opener = some closer) {n : ℕ}
    (h : regionLength? (opener :: text) = some n) :
    ∃ inner behind, text = inner ++ closer :: behind ∧ n = inner.length + 2 ∧
      ∀ more, regionLength? (opener :: (inner ++ closer :: more)) = some n := by
  obtain ⟨front, v, rest, hwalk, rfl, hout, rfl, htop, hfront⟩ :=
    (regionLength?_eq_some_iff hopener).1 h
  obtain ⟨-, -, hslash, -, hne⟩ := bracket_chars hopener
  obtain ⟨before, behind, hsplit, hindex, hmore⟩ := visits_through hwalk hslash
  cases before with
  | nil => exact absurd (List.cons.inj hsplit).1 hne
  | cons c inner =>
    obtain ⟨rfl, rfl⟩ := List.cons.inj hsplit
    refine ⟨inner, behind, rfl, ?_, fun more => ?_⟩
    · rw [hindex, List.length_cons, Nat.zero_add]
    · exact (regionLength?_eq_some_iff hopener).2
        ⟨front, v, visits v.after (v.index + 1) more, hmore more, rfl, hout, rfl, htop, hfront⟩

/-- A region that closes in a text is the same with more behind the text. -/
lemma regionLength?_append_of_some {n : ℕ} (h : regionLength? text = some n) :
    regionLength? (text ++ more) = some n := by
  obtain ⟨opener, closer, rest, rfl, hopener⟩ := exists_opener_of_regionLength? h
  obtain ⟨inner, behind, rfl, -, hmore⟩ := regionLength?_through hopener h
  rw [List.cons_append, List.append_assoc, List.cons_append]
  exact hmore (behind ++ more)

end SlideContract.Scan
