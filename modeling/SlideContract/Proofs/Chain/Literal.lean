import SlideContract.Chain.Literal
import SlideContract.Proofs.Scan.Plain
import SlideContract.Proofs.Text.Blank

/-!
# String literals

A literal stands between two equal quotes: the walk is inside the string up to the last one. What
may stand between them is read off character by character, each escape as one. A text is written as
a literal with its backslashes and these quotes escaped, and what is read back is the text.

* `inside_iff`: what stands between two quotes is what the scan finds inside a string;
* `balanced_enclosed`: a literal is a balanced text;
* `unescape_eq_self_iff`: which escapes are left as they are;
* `unquote_literal`: the content of a literal is the text that it writes.
-/

namespace SlideContract.Chain
open Scan

/-- What may stand between two quotes: characters other than a backslash and the quote, line breaks
only if the quote may span lines, and backslashes with the characters that they escape. -/
inductive Inside (quote : Char) : List Char → Prop
  | nil : Inside quote []
  | plain {c : Char} {rest : List Char} (hbackslash : c ≠ '\\') (hquote : c ≠ quote)
      (hline : c = '\n' → quote = spanningQuote) (h : Inside quote rest) : Inside quote (c :: rest)
  | escaped (c : Char) {rest : List Char} (h : Inside quote rest) :
      Inside quote ('\\' :: c :: rest)

/-- A text between two quotes. -/
def enclosed (quote : Char) (body : List Char) : List Char := quote :: (body ++ [quote])

/-- The text with its backslashes and the given quotes escaped. -/
def escape (quote : Char) : List Char → List Char
  | [] => []
  | c :: rest => if c = '\\' ∨ c = quote then '\\' :: c :: escape quote rest else c :: escape quote rest

/-- The literal of a text between two quotes. -/
def literal (quote : Char) (value : List Char) : List Char := quote :: (escape quote value ++ [quote])

/-- The three quotes. -/
lemma isQuote_iff {c : Char} : isQuote c = true ↔ c = '\x27' ∨ c = '\x22' ∨ c = '\x60' := by
  simp [isQuote, or_assoc]

lemma quote_chars {quote : Char} (h : isQuote quote = true) :
    quote ≠ '\\' ∧ quote ≠ '/' ∧ quote ≠ '*' ∧ Text.isBlank quote = false := by
  rcases isQuote_iff.1 h with rfl | rfl | rfl <;> decide

lemma ne_line_of_isQuote {quote : Char} (h : isQuote quote = true) : quote ≠ '\n' := by
  rintro rfl
  exact absurd h (by decide)

variable {quote c : Char} {body more value : List Char}

/-! ## Scanning -/

/-- The state inside a string. -/
def within (quote : Char) : State := { quote := some quote }

lemma advance_quote (h : isQuote quote = true) : State.advance {} quote = within quote := by
  show (if isQuote quote = true then _ else _) = _
  rw [h]
  rfl

lemma advance_close (h : quote ≠ '\\') : (within quote).advance quote = {} := by
  have hbackslash : (quote == '\\') = false := beq_false_of_ne h
  show (if (quote == '\\') = true then _ else if (quote == quote) = true then _ else _) = _
  rw [hbackslash, beq_self_eq_true]
  rfl

/-- Characters other than a backslash, the quote and the end of a line leave the string open. -/
lemma advance_plain (hbackslash : c ≠ '\\') (hquote : c ≠ quote)
    (hline : c = '\n' → quote = spanningQuote) : (within quote).advance c = within quote := by
  have hbreak : (c == '\n' && quote != spanningQuote) = false := by
    by_cases hn : c = '\n'
    · rw [hline hn]
      simp
    · rw [beq_false_of_ne hn]
      rfl
  show (if (c == '\\') = true then _ else if (c == quote) = true then _
    else if (c == '\n' && quote != spanningQuote) = true then _ else within quote) = _
  rw [beq_false_of_ne hbackslash, beq_false_of_ne hquote, hbreak]
  rfl

/-- A backslash and the character that it escapes leave the string open. -/
lemma advance_escaped (quote c : Char) :
    ((within quote).advance '\\').advance c = within quote := rfl

/-- The walk stays inside the string up to its end. -/
lemma scan_inside (h : quote ≠ '\\') (hinside : Inside quote body) :
    Plain (within quote) (body ++ [quote]) ∧ (within quote).run (body ++ [quote]) = {} ∧
      ∀ index, ∀ v ∈ trace (within quote) index (body ++ [quote]),
        v.after.unbalanced = false ∧ v.outside = false := by
  -- by the string's own parts: the scan stays inside over a plain character and over an escaped
  -- pair, and leaves at the quote
  induction hinside with
  | nil =>
    refine ⟨⟨fun hnone => absurd hnone (by simp [within]), trivial⟩, advance_close h, ?_⟩
    intro index v hv
    rw [List.nil_append, trace, trace, List.mem_singleton] at hv
    rw [hv]
    refine ⟨?_, rfl⟩
    show ((within quote).advance quote).unbalanced = false
    rw [advance_close h]
    rfl
  | @plain c rest hbackslash hquote hline _ ih =>
    obtain ⟨hplain, hrun, hclosed⟩ := ih
    have hstay := advance_plain hbackslash hquote hline
    rw [List.cons_append]
    refine ⟨⟨fun hnone => absurd hnone (by simp [within]), ?_⟩, ?_, ?_⟩
    · rw [hstay]
      exact hplain
    · rw [State.run_cons, hstay]
      exact hrun
    · intro index v hv
      rw [trace, hstay] at hv
      rcases List.mem_cons.1 hv with rfl | hv
      · refine ⟨?_, rfl⟩
        show ((within quote).advance c).unbalanced = false
        rw [hstay]
        rfl
      · exact hclosed _ v hv
  | @escaped c rest _ ih =>
    obtain ⟨hplain, hrun, hclosed⟩ := ih
    rw [List.cons_append, List.cons_append]
    refine ⟨⟨fun hnone => absurd hnone (by simp [within]),
      fun hnone => absurd hnone (by simp [within, State.advance, State.advanceInString]), hplain⟩,
      hrun, ?_⟩
    intro index v hv
    rw [trace, trace, advance_escaped] at hv
    rcases List.mem_cons.1 hv with rfl | hv
    · exact ⟨rfl, rfl⟩
    rcases List.mem_cons.1 hv with rfl | hv
    · exact ⟨rfl, rfl⟩
    · exact hclosed _ v hv

/-- A string that the quote opens is open everywhere in the text, and the quote behind the text
closes it. -/
structure Spans (quote : Char) (body : List Char) : Prop where
  stays : ∀ before behind, body = before ++ behind →
    ((within quote).run before).quote = some quote
  closes : ((within quote).run (body ++ [quote])).quote = none

lemma Spans.behind {front : List Char} (h : Spans quote body) (heq : body = front ++ more)
    (hfront : (within quote).run front = within quote) : Spans quote more where
  stays before behind hmore := by
    have hwhole := h.stays (front ++ before) behind (by rw [heq, hmore, List.append_assoc])
    rwa [State.run_append, hfront] at hwhole
  closes := by
    have hwhole := h.closes
    rwa [heq, List.append_assoc, State.run_append, hfront] at hwhole

/-- What may stand between two quotes keeps a string open up to the second one. -/
lemma Inside.spans (h : quote ≠ '\\') (hinside : Inside quote body) : Spans quote body := by
  refine ⟨?_, by rw [(scan_inside h hinside).2.1]⟩
  induction hinside with
  | nil =>
    intro before behind heq
    rw [(List.append_eq_nil_iff.1 heq.symm).1]
    rfl
  | @plain c rest hbackslash hquote hline _ ih =>
    intro before behind heq
    cases before with
    | nil => rfl
    | cons d before =>
      obtain ⟨rfl, rfl⟩ := List.cons.inj heq
      rw [State.run_cons, advance_plain hbackslash hquote hline]
      exact ih before behind rfl
  | @escaped c rest _ ih =>
    -- the text may end in the middle of an escape, where the string is open as well
    intro before behind heq
    match before, heq with
    | [], _ => rfl
    | [d], heq =>
      obtain ⟨rfl, -⟩ := List.cons.inj heq
      rfl
    | d :: e :: before, heq =>
      obtain ⟨rfl, hrest⟩ := List.cons.inj heq
      obtain ⟨rfl, rfl⟩ := List.cons.inj hrest
      rw [State.run_cons, State.run_cons, advance_escaped]
      exact ih before behind rfl

/-- A text through which a string stays open may stand between the two quotes. -/
lemma Spans.inside (h : quote ≠ '\\') (hspans : Spans quote body) : Inside quote body := by
  have hfront : ∀ c rest, '\\' :: c :: rest = ['\\', c] ++ rest := fun _ _ => rfl
  -- the text is taken apart as it is read, an escape at a time
  induction body using unescape.induct with
  | case1 rest ih => exact .escaped '\n' (ih (hspans.behind (hfront '\n' rest) rfl))
  | case2 c rest _ ih => exact .escaped c (ih (hspans.behind (hfront c rest) rfl))
  | case3 c rest hplain ih =>
    have hbackslash : c ≠ '\\' := by
      rintro rfl
      cases rest with
      | nil => exact absurd hspans.closes (by simp [within, State.advance, State.advanceInString])
      | cons d rest => exact hplain d rest rfl rfl
    have hstays := hspans.stays [c] rest rfl
    have hquote : c ≠ quote := by
      rintro rfl
      rw [State.run_cons, advance_close h] at hstays
      exact absurd hstays (by simp)
    have hline : c = '\n' → quote = spanningQuote := by
      rintro rfl
      by_contra hne
      simp [within, State.advance, State.advanceInString, hquote, hne] at hstays
    exact .plain hbackslash hquote hline
      (ih (hspans.behind (List.singleton_append).symm (advance_plain hbackslash hquote hline)))
  | case4 => exact .nil

/-- What may stand between two quotes is what the scan takes for the inside of one string. -/
theorem inside_iff (h : quote ≠ '\\') : Inside quote body ↔ Spans quote body :=
  ⟨fun hinside => hinside.spans h, fun hspans => hspans.inside h⟩

/-- A literal is balanced, and none of its characters is code. -/
lemma balanced_enclosed (h : isQuote quote = true) (hinside : Inside quote body) :
    Balanced (enclosed quote body) ∧
      ∀ index, ∀ v ∈ trace {} index (enclosed quote body), v.outside = false := by
  obtain ⟨hbackslash, hslash, -, -⟩ := quote_chars h
  obtain ⟨hplain, hrun, hclosed⟩ := scan_inside hbackslash hinside
  -- the opening quote leads into the string, where nothing is code and no depth moves
  have hvisits : ∀ index, ∀ v ∈ trace {} index (enclosed quote body),
      v.after.unbalanced = false ∧ v.outside = false := by
    intro index v hv
    unfold enclosed at hv
    rw [trace, advance_quote h] at hv
    rcases List.mem_cons.1 hv with rfl | hv
    · refine ⟨?_, ?_⟩
      · show (State.advance {} quote).unbalanced = false
        rw [advance_quote h]
        rfl
      · simp [visit, h]
    · exact hclosed _ v hv
  refine ⟨⟨⟨?_, ?_⟩, ?_, ?_⟩, ?_⟩
  · intro _
    rw [commentLength_eq_zero_iff]
    exact fun hc => hslash hc.1
  · rw [advance_quote h]
    exact hplain
  · unfold enclosed
    rw [State.run_cons, advance_quote h]
    exact hrun
  · exact fun index v hv => (hvisits index v hv).1
  · exact fun index v hv => (hvisits index v hv).2

/-! ## Escapes -/

lemma Inside.append (h : Inside quote body) (hmore : Inside quote more) :
    Inside quote (body ++ more) := by
  induction h with
  | nil => exact hmore
  | plain hbackslash hquote hline _ ih => exact .plain hbackslash hquote hline ih
  | escaped c _ ih => exact .escaped c ih

/-- A text without backslashes and the quote, and without line breaks where they matter. -/
lemma inside_of_forall (h : ∀ c ∈ body, c ≠ '\\' ∧ c ≠ quote)
    (hline : '\n' ∈ body → quote = spanningQuote) : Inside quote body := by
  induction body with
  | nil => exact .nil
  | cons c rest ih =>
    obtain ⟨hbackslash, hquote⟩ := h c List.mem_cons_self
    refine .plain hbackslash hquote ?_ (ih (fun d hd => h d (List.mem_cons_of_mem _ hd))
      fun hmem => hline (List.mem_cons_of_mem _ hmem))
    rintro rfl
    exact hline List.mem_cons_self

lemma inside_escape (hline : '\n' ∈ value → quote = spanningQuote) :
    Inside quote (escape quote value) := by
  induction value with
  | nil => exact .nil
  | cons c rest ih =>
    have hrest := ih fun hmem => hline (List.mem_cons_of_mem _ hmem)
    unfold escape
    split
    · exact .escaped c hrest
    · rename_i hne
      obtain ⟨hbackslash, hquote⟩ := not_or.1 hne
      refine .plain hbackslash hquote ?_ hrest
      rintro rfl
      exact hline List.mem_cons_self

lemma unescape_plain (h : c ≠ '\\') (rest : List Char) :
    unescape (c :: rest) = c :: unescape rest := by
  rw [unescape]
  exact fun _ _ hc _ => h hc

/-- What stands between quotes ends with no open escape. -/
lemma unescape_append (h : Inside quote body) (more : List Char) :
    unescape (body ++ more) = unescape body ++ unescape more := by
  induction h with
  | nil => rfl
  | plain hbackslash _ _ _ ih =>
    rw [List.cons_append, unescape_plain hbackslash, unescape_plain hbackslash, ih,
      List.cons_append]
  | @escaped c rest _ ih =>
    rw [List.cons_append, List.cons_append, unescape, unescape, ih]
    split
    · rw [List.cons_append, List.cons_append]
    · rw [List.cons_append]

lemma unescape_escape (h : quote ≠ '\n') : unescape (escape quote value) = value := by
  induction value with
  | nil => rfl
  | cons c rest ih =>
    unfold escape
    split
    · rename_i hspecial
      have hline : c ≠ '\n' := by
        rcases hspecial with rfl | rfl
        · decide
        · exact h
      rw [unescape, if_neg hline, ih]
    · rename_i hne
      rw [unescape_plain (not_or.1 hne).1, ih]

lemma unescape_eq_nil_iff {text : List Char} : unescape text = [] ↔ text = [] := by
  fun_cases unescape text <;> simp

lemma sublist_unescape (text : List Char) : (unescape text).Sublist text := by
  fun_induction unescape text with
  | case1 rest ih => exact (ih.cons_cons _).cons_cons _
  | case2 c rest _ ih => exact (ih.cons_cons _).cons _
  | case3 c rest _ ih => exact ih.cons_cons _
  | case4 => exact .slnil

/-- Reading escapes loses no line break. -/
lemma line_mem_unescape_iff {text : List Char} : '\n' ∈ unescape text ↔ '\n' ∈ text := by
  refine ⟨(sublist_unescape text).mem, ?_⟩
  fun_induction unescape text with
  | case1 rest ih => simp
  | case2 c rest hc ih => simpa [Ne.symm hc] using ih
  | case3 c rest _ ih => simpa using fun h => h.imp_right ih
  | case4 => simp

/-- The only escapes in the text are those of line breaks. -/
def EscapesLines (text : List Char) : Prop :=
  ∀ before c behind, text = before ++ '\\' :: c :: behind → c = '\n'

lemma escapesLines_cons {d : Char} {rest : List Char} :
    EscapesLines (d :: rest) ↔ (d = '\\' → ∀ c ∈ rest.head?, c = '\n') ∧ EscapesLines rest := by
  constructor
  · intro h
    refine ⟨?_, fun before c behind heq => h (d :: before) c behind (by rw [heq]; rfl)⟩
    rintro rfl c hc
    cases rest with
    | nil => exact absurd hc (by simp)
    | cons e rest =>
      rw [← Option.some.inj (show some e = some c from hc)]
      exact h [] e rest rfl
  · rintro ⟨hhead, hrest⟩ before c behind heq
    cases before with
    | nil =>
      obtain ⟨rfl, rfl⟩ := List.cons.inj heq
      exact hhead rfl c rfl
    | cons e before => exact hrest before c behind (List.cons.inj heq).2

/-- Reading escapes leaves a text as it is exactly if it escapes nothing but line breaks. -/
theorem unescape_eq_self_iff {text : List Char} : unescape text = text ↔ EscapesLines text := by
  fun_induction unescape text with
  | case1 rest ih =>
    rw [List.cons.injEq, List.cons.injEq, ih, escapesLines_cons, escapesLines_cons]
    simp
  | case2 c rest hc ih =>
    refine iff_of_false (fun heq => ?_) fun h => hc (h [] c rest rfl)
    have hlength := congrArg List.length heq
    have hle := (sublist_unescape rest).length_le
    simp only [List.length_cons] at hlength
    omega
  | case3 c rest hplain ih =>
    have hhead : c = '\\' → ∀ d ∈ rest.head?, d = '\n' := by
      rintro rfl d hd
      cases rest with
      | nil => exact absurd hd (by simp)
      | cons e rest => exact absurd rfl (hplain e rest rfl)
    rw [List.cons.injEq, ih, escapesLines_cons, eq_self_iff_true, true_and, and_iff_right hhead]
  | case4 => exact iff_of_true rfl fun before c behind heq => absurd heq (by simp)

/-- What is read from a literal stands in it. -/
lemma sublist_of_unquote {text : List Char} (h : unquote text = some value) :
    value.Sublist text := by
  unfold unquote at h
  simp only at h
  split at h
  · split at h
    · rw [← Option.some.inj h]
      exact (sublist_unescape _).trans
        ((List.dropLast_sublist _).trans ((List.drop_sublist _ _).trans (Text.sublist_trim text)))
    · exact absurd h (by simp)
  · exact absurd h (by simp)

/-- What is read from a literal is what stands between its quotes, with its escapes read. -/
lemma unquote_enclosed (h : isQuote quote = true) (body : List Char) :
    unquote (enclosed quote body) = some (unescape body) := by
  obtain ⟨-, -, -, hblank⟩ := quote_chars h
  have hlast : (enclosed quote body).getLast? = some quote := by
    unfold enclosed
    rw [← List.cons_append, List.getLast?_append]
    rfl
  have htrim : Text.trim (enclosed quote body) = enclosed quote body := by
    apply Text.trim_of_starts_stops
    · exact Text.starts_cons hblank _
    · exact Text.stops_of_getLast? hlast hblank
  have hdrop : ((enclosed quote body).drop 1).dropLast = body := by
    unfold enclosed
    rw [List.drop_one, List.tail_cons, List.dropLast_concat]
  unfold unquote
  simp only [htrim]
  cases hrest : body ++ [quote] with
  | nil => simp at hrest
  | cons d rest =>
    have hcons : enclosed quote body = quote :: d :: rest := by
      unfold enclosed
      rw [hrest]
    rw [hcons]
    simp only
    rw [← hcons, hlast, h, hdrop]
    simp

/-- What is read from a literal is the text that it writes. -/
theorem unquote_literal (h : isQuote quote = true) : unquote (literal quote value) = some value := by
  have hread := unquote_enclosed h (escape quote value)
  rwa [unescape_escape (ne_line_of_isQuote h)] at hread

end SlideContract.Chain
