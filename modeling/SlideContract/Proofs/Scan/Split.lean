import SlideContract.Proofs.Scan.Plain
import SlideContract.Proofs.Text.Blank

/-!
# Splitting joined parts

Parts that are balanced and not cut themselves are found again where they are joined with the
separator.

* `Uncut.append`, `uncut_bracket`: how parts without separators are put together;
* `splitTopLevel_intercalate`: splitting undoes joining, blanks at the ends of the parts aside.
-/

namespace SlideContract.Scan

/-- No separator stands in the text at the top level. -/
def Uncut (separator : Char) (text : List Char) : Prop :=
  ∀ index, ∀ v ∈ trace {} index text,
    (v.outside && v.char == separator && v.after.atTopLevel) = false

variable {separator : Char} {text more : List Char}

lemma Uncut.nil : Uncut separator [] := fun _ _ h => absurd h List.not_mem_nil

lemma Uncut.append (h : Uncut separator text) (hbalanced : Balanced text)
    (hmore : Uncut separator more) : Uncut separator (text ++ more) := by
  intro index v hv
  rw [trace_append, hbalanced.final] at hv
  rcases List.mem_append.1 hv with hv | hv
  · exact h index v hv
  · exact hmore _ v hv

/-- A text that does not hold the separator. -/
lemma Uncut.of_forall (h : ∀ c ∈ text, c ≠ separator) : Uncut separator text := by
  intro index v hv
  obtain ⟨before, c, behind, rfl, rfl⟩ := mem_trace.1 hv
  have hne : (c == separator) = false := beq_false_of_ne (h c (by simp))
  simp [visit, hne]

/-- A text in front in which nothing opens or closes, and that does not hold the separator. -/
lemma Uncut.unmarked {front : List Char} (hfront : ∀ c ∈ front, c ∉ marks)
    (hseparator : separator ∈ marks) (htext : Uncut separator text) :
    Uncut separator (front ++ text) := by
  have hbalanced : Balanced front := by
    rw [← List.append_nil front]
    exact .unmarked hfront .nil
  have huncut : Uncut separator front :=
    .of_forall fun c hc => ne_of_not_mem_marks (hfront c hc) hseparator
  exact huncut.append hbalanced htext

/-- A text without code is not cut. -/
lemma Uncut.of_inside (h : ∀ index, ∀ v ∈ trace {} index text, v.outside = false) :
    Uncut separator text := by
  intro index v hv
  rw [h index v hv]
  rfl

/-- A bracket hides the separators inside. -/
lemma uncut_bracket {opener closer : Char} (h : closer? opener = some closer)
    (htext : Balanced text) (hcloser : closer ≠ separator) :
    Uncut separator (opener :: (text ++ [closer])) := by
  obtain ⟨hcode, hopen, hlevel, -⟩ := bracket_states h
  intro index v hv
  rw [trace, trace_append, htext.run_eq hcode, Balanced.trace_eq hcode, trace, trace] at hv
  -- from the opener on up to the closer the scan is below the top level
  rcases List.mem_cons.1 hv with rfl | hv
  · have htop : (State.advance {} opener).atTopLevel = false := by
      rw [State.atTopLevel, hlevel, Bool.and_false]
    simp [visit, htop]
  rcases List.mem_append.1 hv with hv | hv
  · obtain ⟨w, hw, rfl⟩ := List.mem_map.1 hv
    have hdeep := raise_isLevel hopen hlevel (htext.closes _ w hw)
    simp [Visit.raise, State.atTopLevel, hdeep]
  · rw [List.mem_singleton.1 hv]
    have hne : (closer == separator) = false := beq_false_of_ne hcloser
    simp [visit, hne]

/-! ## Joined parts -/

/-- A separator stands in code, opens nothing and is no part of a comment. -/
structure Separates (c : Char) : Prop where
  code : isQuote c = false
  advance : State.advance {} c = {}
  slash : c ≠ '/'
  star : c ≠ '*'
  blank : Text.isBlank c = false

lemma separates_comma : Separates ',' := ⟨rfl, rfl, by decide, by decide, by decide⟩

/-- The indexes at which the visits of a text are cut. -/
def cutsOf (separator : Char) (visited : List Visit) : List ℕ :=
  (visited.filter fun v => v.outside && v.char == separator && v.after.atTopLevel).map (·.index)

lemma cutsOf_append (visited others : List Visit) :
    cutsOf separator (visited ++ others) = cutsOf separator visited ++ cutsOf separator others := by
  unfold cutsOf
  rw [List.filter_append, List.map_append]

lemma cutsOf_uncut (h : Uncut separator text) (index : ℕ) :
    cutsOf separator (trace {} index text) = [] := by
  unfold cutsOf
  rw [List.filter_eq_nil_iff.2, List.map_nil]
  intro v hv
  rw [h index v hv]
  decide

/-- The pieces of joined parts are the parts. -/
lemma pieces_intercalate (hseparator : Separates separator) {parts : List (List Char)}
    (hne : parts ≠ []) (h : ∀ part ∈ parts, Balanced part ∧ Uncut separator part) (start : ℕ) :
    pieces start (List.intercalate [separator] parts)
      (cutsOf separator (visits {} start (List.intercalate [separator] parts))) = parts := by
  induction parts generalizing start with
  | nil => exact absurd rfl hne
  | cons part rest ih =>
    obtain ⟨hbalanced, huncut⟩ := h part List.mem_cons_self
    cases rest with
    | nil =>
      have hjoin : List.intercalate [separator] [part] = part := by simp
      rw [hjoin, visits_of_plain hbalanced.plain, cutsOf_uncut huncut]
      rfl
    | cons next rest =>
      have hrest := ih (by simp) (fun p hp => h p (List.mem_cons_of_mem _ hp))
        (start + part.length + 1)
      have hjoin : List.intercalate [separator] (part :: next :: rest)
          = part ++ separator :: List.intercalate [separator] (next :: rest) := by
        rw [List.intercalate_cons_cons, List.append_assoc]
        rfl
      generalize List.intercalate [separator] (next :: rest) = behind at hrest hjoin
      rw [hjoin]
      have hfollows : Follows (separator :: behind) :=
        ⟨by simpa using hseparator.slash, by simpa using hseparator.star⟩
      have hcomment : commentLength (separator :: behind) = 0 := by
        rw [commentLength_eq_zero_iff]
        exact fun hc => hseparator.slash hc.1
      -- behind a balanced part the walk is at the top level again, so the separator is a cut and
      -- the next part starts afresh
      have hcut : ∀ visited, cutsOf separator (visit {} (start + part.length) separator :: visited)
          = (start + part.length) :: cutsOf separator visited := by
        intro visited
        simp [cutsOf, visit, hseparator.code, hseparator.advance, State.atTopLevel, State.isLevel]
      rw [visits_append hbalanced.plain (hfollows.joins _), hbalanced.final,
        visits_cons fun _ => hcomment, hseparator.advance, cutsOf_append, cutsOf_uncut huncut,
        List.nil_append, hcut]
      show List.take (start + part.length - start) (part ++ separator :: behind) ::
        pieces (start + part.length + 1)
          (List.drop (start + part.length + 1 - start) (part ++ separator :: behind)) _ = _
      have htake : start + part.length - start = part.length := by omega
      have hdrop : start + part.length + 1 - start = part.length + 1 := by omega
      rw [htake, List.take_left, hdrop, ← List.drop_drop, List.drop_left, List.drop_one,
        List.tail_cons, hrest]

/-- Splitting undoes joining: the parts come back, trimmed, and those that are blank are dropped. -/
theorem splitTopLevel_intercalate (hseparator : Separates separator) {parts : List (List Char)}
    (h : ∀ part ∈ parts, Balanced part ∧ Uncut separator part) :
    splitTopLevel (List.intercalate [separator] parts) separator
      = (parts.map Text.trim).filter fun part => !part.isEmpty := by
  have hcleaned : parts.map cleaned = parts.map Text.trim := by
    apply List.map_congr_left
    intro part hpart
    unfold cleaned
    rw [stripComments_of_plain (h part hpart).1.plain]
  cases parts with
  | nil =>
    have hempty : cleaned [] = [] := by
      unfold cleaned
      rw [stripComments_of_plain (show Plain {} [] from trivial)]
      rfl
    show (List.map cleaned (pieces 0 [] (cuts separator []))).filter _ = []
    unfold cuts walk
    rw [visits]
    show [cleaned []].filter _ = []
    rw [hempty]
    rfl
  | cons part rest =>
    have hpieces := pieces_intercalate hseparator (by simp) h 0
    unfold splitTopLevel cuts walk
    rw [← hcleaned]
    show ((pieces 0 _ (cutsOf separator (visits {} 0 _))).map cleaned).filter _ = _
    rw [hpieces]

/-- A part that is not cut is the only one, without the blanks at its ends. -/
lemma splitTopLevel_trim (hseparator : Separates separator) (hbalanced : Balanced text)
    (h : Uncut separator text) (hne : Text.trim text ≠ []) :
    splitTopLevel text separator = [Text.trim text] := by
  have hparts : ∀ part ∈ [text], Balanced part ∧ Uncut separator part := by
    intro part hpart
    rw [List.mem_singleton.1 hpart]
    exact ⟨hbalanced, h⟩
  have hsplit := splitTopLevel_intercalate hseparator hparts
  have hjoin : List.intercalate [separator] [text] = text := by simp
  rw [hjoin] at hsplit
  rw [hsplit, List.map_singleton, List.filter_cons, List.isEmpty_eq_false_iff.2 hne]
  rfl

/-- A part that is not cut and has no blanks at its ends is the only one. -/
lemma splitTopLevel_single (hseparator : Separates separator) (hbalanced : Balanced text)
    (h : Uncut separator text) (hstarts : Text.Starts text) (hstops : Text.Stops text)
    (hne : text ≠ []) : splitTopLevel text separator = [text] := by
  have htrim := Text.trim_of_starts_stops hstarts hstops
  have hsplit := splitTopLevel_trim hseparator hbalanced h (by rwa [htrim])
  rwa [htrim] at hsplit

lemma splitTopLevel_nil (hseparator : Separates separator) : splitTopLevel [] separator = [] :=
  splitTopLevel_intercalate hseparator (fun _ h => absurd h List.not_mem_nil)

/-- Blanks behind the separators are as good as blanks in front of the parts. -/
lemma intercalate_pad (pad part : List Char) (rest : List (List Char)) :
    List.intercalate (separator :: pad) (part :: rest)
      = List.intercalate [separator] (part :: rest.map (pad ++ ·)) := by
  induction rest generalizing part with
  | nil => simp
  | cons next rest ih =>
    have hnext := ih (pad ++ next)
    rw [List.intercalate_cons_cons, ih next, List.map_cons, List.intercalate_cons_cons]
    cases rest <;> simp [List.intercalate_cons_cons]

/-- Splitting undoes joining, blanks behind the separators aside. -/
theorem splitTopLevel_listed (hseparator : Separates separator) {pad : List Char}
    (hpad : ∀ c ∈ pad, Text.isBlank c = true) {parts : List (List Char)}
    (h : ∀ part ∈ parts, Balanced part ∧ Uncut separator part)
    (hends : ∀ part ∈ parts, Text.Starts part ∧ Text.Stops part ∧ part ≠ []) :
    splitTopLevel (List.intercalate (separator :: pad) parts) separator = parts := by
  have hblanks : Balanced pad ∧ Uncut separator pad := by
    refine ⟨?_, .of_forall ?_⟩
    · rw [← List.append_nil pad]
      exact .blanks hpad .nil
    · rintro c hc rfl
      have hblank := hpad c hc
      rw [hseparator.blank] at hblank
      exact absurd hblank (by decide)
  -- blanks behind a separator are read as the beginning of the next part, which is trimmed and
  -- never empty
  have htrim : ∀ part ∈ parts, Text.trim part = part :=
    fun part hpart => Text.trim_of_starts_stops (hends part hpart).1 (hends part hpart).2.1
  have hkept : (parts.filter fun part => !part.isEmpty) = parts := by
    rw [List.filter_eq_self]
    intro part hpart
    simp [(hends part hpart).2.2]
  cases parts with
  | nil => exact splitTopLevel_nil hseparator
  | cons part rest =>
    have hparts : ∀ q ∈ part :: rest.map (pad ++ ·), Balanced q ∧ Uncut separator q := by
      intro q hq
      rcases List.mem_cons.1 hq with rfl | hq
      · exact h q List.mem_cons_self
      · obtain ⟨p, hp, rfl⟩ := List.mem_map.1 hq
        obtain ⟨hbalanced, huncut⟩ := h p (List.mem_cons_of_mem _ hp)
        exact ⟨.blanks hpad hbalanced, hblanks.2.append hblanks.1 huncut⟩
    have hrest : (rest.map (pad ++ ·)).map Text.trim = rest := by
      rw [List.map_map]
      conv_rhs => rw [← List.map_id rest]
      apply List.map_congr_left
      intro p hp
      have hp' := List.mem_cons_of_mem part hp
      show Text.trim (pad ++ p) = p
      have hdrop : Text.trim (pad ++ p) = Text.trim p := by
        unfold Text.trim
        rw [Text.dropBlanks_append hpad]
      rw [hdrop, htrim p hp']
    rw [intercalate_pad, splitTopLevel_intercalate hseparator hparts, List.map_cons, hrest,
      htrim part List.mem_cons_self, hkept]

end SlideContract.Scan
