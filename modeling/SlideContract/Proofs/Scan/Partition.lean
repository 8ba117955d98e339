import SlideContract.Proofs.Chain.Spelling
import SlideContract.Proofs.Scan.Code

/-!
# Splitting as a partition

A text is cut before its comments are removed and its pieces are trimmed, each of them scanned from
the beginning. The parts are nevertheless those of the text without comments, cut at the separators
that stand outside strings with no bracket open: at such a separator the scan is back in the state
in which it began, so that the pieces are scanned alone as they were in the text.

* `segments`: the pieces of a text, read character by character;
* `map_shed_pieces`: the pieces of a text lose their comments as the text does;
* `exists_segments`: a piece is not cut again, nor is any part of one;
* `splitTopLevel_partition`: splitting is a partition of the text without comments.
-/

namespace SlideContract.Scan
open Text

variable {separator : Char} {s : State} {text front : List Char} {index : ℕ}

/-- The pieces of a text, scanned from the state on, between the separators that stand outside
strings with no bracket open. -/
def segments (separator : Char) (s : State) : List Char → List (List Char)
  | [] => [[]]
  | c :: rest =>
    if c == separator && s.atTopLevel then [] :: segments separator (s.advance c) rest
    else (segments separator (s.advance c) rest).modifyHead (c :: ·)

lemma segments_ne_nil (separator : Char) (s : State) (text : List Char) :
    segments separator s text ≠ [] := by
  induction text generalizing s with
  | nil => exact List.cons_ne_nil _ _
  | cons c rest ih =>
    rw [segments]
    split
    · exact List.cons_ne_nil _ _
    · rw [ne_eq, List.modifyHead_eq_nil_iff]
      exact ih _

/-- Joined with the separator the pieces are the text. -/
lemma intercalate_segments (separator : Char) (s : State) (text : List Char) :
    List.intercalate [separator] (segments separator s text) = text := by
  -- along the text: what is cut off is the separator itself, which joining puts back
  induction text generalizing s with
  | nil => rfl
  | cons c rest ih =>
    obtain ⟨piece, pieces, hpieces⟩ :=
      List.exists_cons_of_ne_nil (segments_ne_nil separator (s.advance c) rest)
    have hrest := ih (s.advance c)
    rw [hpieces] at hrest
    rw [segments, hpieces]
    split
    · rename_i hcut
      rw [List.intercalate_cons_cons, hrest, (Bool.and_eq_true_iff.1 hcut).1 |> beq_iff_eq.1]
      rfl
    · rw [List.modifyHead_cons]
      cases pieces with
      | nil =>
        rw [List.intercalate_singleton] at hrest ⊢
        rw [hrest]
      | cons next pieces =>
        rw [List.intercalate_cons_cons] at hrest ⊢
        rw [List.cons_append, List.cons_append, hrest]

/-- Of a text that is not cut no part is. -/
lemma segments_of_append {more : List Char}
    (h : segments separator s (front ++ more) = [front ++ more]) :
    segments separator s front = [front] ∧ segments separator (s.run front) more = [more] := by
  induction front generalizing s with
  | nil => exact ⟨rfl, h⟩
  | cons c rest ih =>
    rw [List.cons_append, segments] at h
    split at h
    · exact absurd (List.cons.inj h).1 (by simp)
    · rename_i hcut
      obtain ⟨piece, pieces, hpieces⟩ :=
        List.exists_cons_of_ne_nil (segments_ne_nil separator (s.advance c) (rest ++ more))
      rw [hpieces, List.modifyHead_cons, List.cons.injEq, List.cons.injEq] at h
      obtain ⟨⟨-, rfl⟩, rfl⟩ := h
      obtain ⟨hrest, hmore⟩ := ih hpieces
      refine ⟨?_, hmore⟩
      rw [segments, if_neg hcut, hrest, List.modifyHead_cons]

/-! ## Pieces of a text with comments -/

/-- What stands in front of all cuts belongs to the first piece. -/
lemma pieces_append {cuts : List ℕ} (h : ∀ cut ∈ cuts, index + front.length ≤ cut) :
    pieces index (front ++ text) cuts
      = (pieces (index + front.length) text cuts).modifyHead (front ++ ·) := by
  cases cuts with
  | nil => rfl
  | cons cut rest =>
    have hle := h cut List.mem_cons_self
    obtain ⟨n, rfl⟩ := Nat.exists_eq_add_of_le hle
    have htake : index + front.length + n - index = front.length + n := by omega
    have hdrop : index + front.length + n + 1 - index = front.length + (n + 1) := by omega
    have htake' : index + front.length + n - (index + front.length) = n := by omega
    have hdrop' : index + front.length + n + 1 - (index + front.length) = n + 1 := by omega
    rw [pieces, pieces, htake, hdrop, htake', hdrop', List.take_length_add_append,
      List.drop_length_add_append, List.modifyHead_cons]

/-- The first piece is a beginning of the text. -/
lemma prefix_of_pieces {cuts : List ℕ} {piece : List Char} {rest : List (List Char)}
    (h : pieces index text cuts = piece :: rest) : piece <+: text := by
  cases cuts with
  | nil =>
    obtain rfl := (List.cons.inj h).1
    exact List.prefix_refl _
  | cons cut cuts =>
    obtain rfl := (List.cons.inj h).1
    exact List.take_prefix _ _

lemma le_of_mem_cutsOf {cut : ℕ} (h : cut ∈ cutsOf separator (visits s index text)) :
    index ≤ cut := by
  obtain ⟨v, hv, rfl⟩ := List.mem_map.1 h
  exact (index_of_mem_visits (List.mem_filter.1 hv).1).1

/-- A separator is no bracket and no quote. -/
structure IsPlainSeparator (c : Char) : Prop where
  quote : isQuote c = false
  bracket : c ∉ ['(', ')', '\x7b', '\x7d', '[', ']']

/-- Outside strings such a character leaves the scan as it is. -/
lemma IsPlainSeparator.advance (h : IsPlainSeparator separator) (hcode : s.quote = none) :
    s.advance separator = s := by
  have hbracket := h.bracket
  simp only [List.mem_cons, List.not_mem_nil, or_false, not_or] at hbracket
  unfold State.advance State.advanceInCode
  simp [hcode, h.quote, hbracket]

/-- At the top level the scan is in the state in which it began. -/
lemma State.atTopLevel_iff (hs : s.quote = none → s.escaped = false) :
    s.atTopLevel = true ↔ s = {} := by
  constructor
  · intro htop
    obtain ⟨hcode, hlevel⟩ := Bool.and_eq_true_iff.1 htop
    rw [Option.isNone_iff_eq_none] at hcode
    exact State.eq_empty ⟨hcode, hs hcode⟩ hlevel
  · rintro rfl
    rfl

/-- A text is cut at its separators at the top level. -/
lemma IsPlainSeparator.cutsOf_cons (h : IsPlainSeparator separator) (c : Char)
    (visited : List Visit) :
    cutsOf separator (visit s index c :: visited)
      = if c == separator && s.atTopLevel then index :: cutsOf separator visited
        else cutsOf separator visited := by
  have hcut : ((visit s index c).outside && (visit s index c).char == separator &&
      (visit s index c).after.atTopLevel) = (c == separator && s.atTopLevel) := by
    show (s.quote.isNone && !isQuote c && c == separator && (s.advance c).atTopLevel) = _
    by_cases hc : c = separator
    · rw [hc, h.quote, beq_self_eq_true]
      cases hquote : s.quote with
      | none => rw [h.advance hquote]; rfl
      | some quote => simp [State.atTopLevel, hquote]
    · rw [beq_false_of_ne hc, Bool.and_false, Bool.false_and, Bool.false_and]
  unfold cutsOf
  rw [List.filter_cons, hcut]
  split <;> rfl

/-- The pieces of a text lose their comments, each scanned alone from the second on, and are then
the pieces of the text without comments. -/
lemma map_shed_pieces (h : IsPlainSeparator separator) (hs : s.quote = none → s.escaped = false) :
    ∃ piece rest,
      pieces index text (cutsOf separator (visits s index text)) = piece :: rest ∧
      segments separator s (shed s text) = shed s piece :: rest.map (shed {}) := by
  induction s, text using walk_induction generalizing index with
  | nil s =>
    rw [visits, shed_nil]
    exact ⟨[], [], rfl, by rw [shed_nil]; rfl⟩
  | visited s c text hc ih =>
    obtain ⟨piece, rest, hpieces, hsegments⟩ := @ih (index + 1) (State.escaped_advance hs c)
    rw [visits_cons hc, shed_cons hc, segments, hsegments, h.cutsOf_cons]
    by_cases hcut : (c == separator && s.atTopLevel) = true
    · rw [if_pos hcut, if_pos hcut]
      -- the scan goes on as it began, so that the next piece is scanned alone as well
      obtain ⟨hchar, htop⟩ := Bool.and_eq_true_iff.1 hcut
      obtain rfl := (State.atTopLevel_iff hs).1 htop
      have hadvance : State.advance {} c = {} := by
        rw [beq_iff_eq.1 hchar]
        exact h.advance rfl
      refine ⟨[], piece :: rest, ?_, ?_⟩
      · rw [pieces, Nat.sub_self, List.take_zero, Nat.add_sub_cancel_left, List.drop_one,
          List.tail_cons, hpieces]
      · rw [shed_nil, hadvance, List.map_cons]
    · rw [if_neg hcut, if_neg hcut]
      obtain ⟨more, rfl⟩ := prefix_of_pieces hpieces
      refine ⟨c :: piece, rest, ?_, ?_⟩
      · have hfront := @pieces_append (piece ++ more) [c] index
          (cutsOf separator (visits (s.advance c) (index + 1) (piece ++ more)))
          fun cut hmem => le_of_mem_cutsOf hmem
        rw [← List.singleton_append, hfront, List.length_singleton, hpieces]
        rfl
      · rw [shed_cons (commentLength_front_cons hc)]
        rfl
  | skipped s comment text hcode hne hcomment ih =>
    obtain ⟨piece, rest, hpieces, hsegments⟩ := @ih (index + comment.length) hs
    obtain ⟨more, rfl⟩ := prefix_of_pieces hpieces
    refine ⟨comment ++ piece, rest, ?_, ?_⟩
    · rw [visits_comment hcode hne hcomment, pieces_append fun cut hmem => le_of_mem_cutsOf hmem,
        hpieces]
      rfl
    · rw [shed_comment hcode hne hcomment, hsegments,
        shed_comment hcode hne (commentLength_front hcomment)]

/-- The parts of a text are the pieces of the text without comments, trimmed, except for those that
are blank. -/
theorem splitTopLevel_eq (h : IsPlainSeparator separator) (text : List Char) :
    splitTopLevel text separator
      = ((segments separator {} (stripComments text)).map trim).filter fun part =>
          !part.isEmpty := by
  obtain ⟨piece, rest, hpieces, hsegments⟩ :=
    @map_shed_pieces separator {} text 0 h fun _ => rfl
  have hcleaned : ∀ pieces : List (List Char),
      pieces.map cleaned = (pieces.map (shed {})).map trim := by
    intro pieces
    rw [List.map_map]
    rfl
  unfold splitTopLevel
  rw [show pieces 0 text (cuts separator text) = piece :: rest from hpieces, hcleaned,
    show segments separator {} (stripComments text) = (piece :: rest).map (shed {}) from hsegments]

/-! ## Pieces alone -/

/-- The pieces of a text in which no comment opens are such texts and are not cut again, the first
of them scanned from where the text is. -/
lemma exists_segments (h : IsPlainSeparator separator) (hs : s.quote = none → s.escaped = false)
    (hplain : Plain s text) :
    ∃ piece rest, segments separator s text = piece :: rest ∧ piece <+: text ∧
      segments separator s piece = [piece] ∧
      ∀ q ∈ rest, Plain {} q ∧ segments separator {} q = [q] := by
  -- along the text: a separator at the top level cuts, and any other character joins the piece
  -- that follows
  induction text generalizing s with
  | nil => exact ⟨[], [], rfl, List.prefix_refl _, rfl, fun q hq => absurd hq List.not_mem_nil⟩
  | cons c text ih =>
    obtain ⟨piece, rest, hsegments, hprefix, hpiece, hrest⟩ :=
      ih (State.escaped_advance hs c) hplain.2
    rw [segments, hsegments]
    split
    · rename_i hcut
      obtain ⟨hchar, htop⟩ := Bool.and_eq_true_iff.1 hcut
      obtain rfl := (State.atTopLevel_iff hs).1 htop
      have hadvance : State.advance {} c = {} := by
        rw [beq_iff_eq.1 hchar]
        exact h.advance rfl
      obtain ⟨more, rfl⟩ := hprefix
      have hplain' := hplain.2
      rw [hadvance] at hplain' hpiece
      refine ⟨[], piece :: rest, rfl, List.nil_prefix, rfl, fun q hq => ?_⟩
      rcases List.mem_cons.1 hq with rfl | hq
      · exact ⟨hplain'.front, hpiece⟩
      · exact hrest q hq
    · rename_i hcut
      rw [List.modifyHead_cons]
      refine ⟨c :: piece, rest, rfl, List.cons_prefix_cons.2 ⟨rfl, hprefix⟩, ?_, hrest⟩
      rw [segments, if_neg hcut, hpiece, List.modifyHead_cons]

/-- A piece without the blanks at its ends is still such a piece. -/
lemma segments_trim (hplain : Plain {} text) (h : segments separator {} text = [text]) :
    Plain {} (trim text) ∧ segments separator {} (trim text) = [trim text] := by
  obtain ⟨lead, trail, hlead, -, hsplit⟩ := Chain.exists_trim text
  have hrun : State.run {} lead = {} :=
    (Balanced.of_still fun c hc => isStill_of_isBlank (hlead c hc)).final
  rw [hsplit] at hplain h
  have hbehind := hplain.of_append
  have hcut := (segments_of_append h).2
  rw [hrun] at hbehind hcut
  exact ⟨hbehind.front, (segments_of_append hcut).1⟩

/-- The parts of a text are the pieces of the text without comments between the separators outside
strings at depth zero, trimmed, except for those that are blank; joined with the separator the
pieces are that text. Removing the comments first makes no difference. Each part is trimmed, holds
no comment, and is its own only part. -/
theorem splitTopLevel_partition (h : IsPlainSeparator separator) (text : List Char) :
    (splitTopLevel text separator
        = ((segments separator {} (stripComments text)).map trim).filter fun part =>
            !part.isEmpty) ∧
      List.intercalate [separator] (segments separator {} (stripComments text))
        = stripComments text ∧
      splitTopLevel (stripComments text) separator = splitTopLevel text separator ∧
      ∀ part ∈ splitTopLevel text separator,
        trim part = part ∧ stripComments part = part ∧ splitTopLevel part separator = [part] := by
  refine ⟨splitTopLevel_eq h text, intercalate_segments _ _ _, ?_, fun part hpart => ?_⟩
  · rw [splitTopLevel_eq h, splitTopLevel_eq h, stripComments_stripComments]
  · rw [splitTopLevel_eq h] at hpart
    obtain ⟨hmem, hne⟩ := List.mem_filter.1 hpart
    obtain ⟨piece, hpiece, rfl⟩ := List.mem_map.1 hmem
    obtain ⟨first, rest, hsegments, hprefix, hfirst, hrest⟩ :=
      exists_segments h (s := {}) (fun _ => rfl) (plain_shed {} text)
    -- a piece is not cut again, and trimming it takes off blanks only, so it is still a single
    -- piece
    have hwhole : Plain {} piece ∧ segments separator {} piece = [piece] := by
      rw [show segments separator {} (stripComments text) = first :: rest from hsegments] at hpiece
      rcases List.mem_cons.1 hpiece with rfl | hpiece
      · obtain ⟨more, hmore⟩ := hprefix
        have hplain := plain_shed {} text
        rw [← hmore] at hplain
        exact ⟨hplain.front, hfirst⟩
      · exact hrest piece hpiece
    obtain ⟨hplain, hsegment⟩ := segments_trim hwhole.1 hwhole.2
    have hstrip := stripComments_of_plain hplain
    refine ⟨trim_trim piece, hstrip, ?_⟩
    rw [splitTopLevel_eq h, hstrip, hsegment, List.map_singleton, trim_trim, List.filter_cons,
      if_pos hne, List.filter_nil]

/-- Fields with commas in a string, a comment and brackets, and in a string that is not closed. -/
theorem splitTopLevel_partition_fields :
    splitTopLevel "a: ',', /* , */ b: [1, 2],, c: \x60d, ".toList ','
        = ["a: ','".toList, "b: [1, 2]".toList, "c: \x60d,".toList] ∧
      splitTopLevel "b: [1, 2]".toList ',' = ["b: [1, 2]".toList] := by
  obtain ⟨hparts, -, -, hpart⟩ := @splitTopLevel_partition ',' ⟨rfl, by decide⟩
    "a: ',', /* , */ b: [1, 2],, c: \x60d, ".toList
  have hfields : splitTopLevel "a: ',', /* , */ b: [1, 2],, c: \x60d, ".toList ','
      = ["a: ','".toList, "b: [1, 2]".toList, "c: \x60d,".toList] := by
    rw [hparts]
    decide +kernel
  exact ⟨hfields, (hpart _ (by rw [hfields]; simp)).2.2⟩

end SlideContract.Scan
