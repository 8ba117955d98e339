import SlideContract.Proofs.Chain.Cleared
import SlideContract.Proofs.Scan.Paired
import SlideContract.Proofs.Scan.Split

/-!
# Defaults of parts

In a text with paired brackets a call closes before the text ends, so that what stands behind the
text takes no part in it. Where such texts are joined with commas, the calls of defaults are
therefore those of each text, and what is left without them are the texts without their own.

* `callLength?_append`: a call is the same with more behind the text;
* `Contained.withoutDefaults`: cutting out a call leaves the brackets paired;
* `withoutDefaults_intercalate`: the defaults of joined texts;
* `trim_withoutDefaults_idem`: nothing more is lost the second time.
-/

namespace SlideContract.Chain
open Scan Text

variable {text more front before call behind : List Char} {s : State}

/-! ## Calls -/

section Calls

variable {names : List (List Char)} (hnames : ∀ name ∈ names, IsIdentifier name)

include hnames

/-- A call that closes is the same whatever stands behind its closing parenthesis. -/
lemma callLength?_through {n : ℕ} (h : callLength? names ('.' :: text) = some n) :
    ∃ front inner behind, text = front ++ '(' :: (inner ++ ')' :: behind) ∧
      (∀ c ∈ front, IsStill c) ∧ n = front.length + inner.length + 3 ∧
      regionLength? ('(' :: (inner ++ [')'])) = some (inner.length + 2) ∧
      ∀ more, callLength? names ('.' :: (front ++ '(' :: (inner ++ ')' :: more))) = some n := by
  unfold callLength? at h ⊢
  simp only [Option.bind_eq_bind, Option.bind_eq_some_iff, Option.pure_def, Option.some.injEq] at h
  obtain ⟨opening, hopening, region, hregion, rfl⟩ := h
  obtain ⟨front, args, rfl, rfl, hfront, hopens⟩ := exists_front_of_callOpening? hnames hopening
  rw [List.drop_succ_cons, List.drop_left] at hregion
  obtain ⟨inner, behind, rfl, rfl, hmore⟩ :=
    regionLength?_through (show closer? '(' = some ')' from rfl) hregion
  refine ⟨front, inner, behind, rfl, hfront, by omega, hmore [], fun more => ?_⟩
  simp only [hopens, Option.bind_eq_bind, Option.bind_some, List.drop_succ_cons, List.drop_left,
    hmore, Option.pure_def]

/-- A call that closes is the same with more behind the text. -/
lemma callLength?_append_of_some {n : ℕ} (h : callLength? names ('.' :: text) = some n)
    (more : List Char) : callLength? names ('.' :: (text ++ more)) = some n := by
  obtain ⟨front, inner, behind, rfl, -, -, -, hmore⟩ := callLength?_through hnames h
  rw [List.append_assoc, List.cons_append, List.append_assoc, List.cons_append]
  exact hmore (behind ++ more)

/-- A call whose parenthesis closes does so before the text ends. -/
lemma callLength?_append (h : Rest text) (hquits : Quits more) :
    callLength? names ('.' :: (text ++ more)) = callLength? names ('.' :: text) := by
  unfold callLength?
  rw [callOpening?_append hnames hquits]
  cases hopening : callOpening? names ('.' :: text) with
  | none => rfl
  | some opening =>
    obtain ⟨front, args, rfl, rfl, hfront, -⟩ := exists_front_of_callOpening? hnames hopening
    have hregion := (Rest.of_still hfront h).regionLength?_append rfl more
    simp only [Option.bind_eq_bind, Option.bind_some, List.append_assoc, List.cons_append,
      List.drop_succ_cons, List.drop_left, hregion]

/-- A call are characters that leave the scan as it is, and parentheses around paired brackets. -/
lemma exists_of_callLength? (h : Rest text) {n : ℕ}
    (hn : callLength? names ('.' :: text) = some n) :
    ∃ front inner rest, text = front ++ '(' :: (inner ++ ')' :: rest) ∧ (∀ c ∈ front, IsStill c) ∧
      Paired inner ∧ (State.run {} (shed {} inner)).quote = none ∧
      n = front.length + inner.length + 3 := by
  unfold callLength? at hn
  simp only [Option.bind_eq_bind, Option.bind_eq_some_iff, Option.pure_def, Option.some.injEq] at hn
  obtain ⟨opening, hopening, region, hregion, rfl⟩ := hn
  obtain ⟨front, args, rfl, rfl, hfront, -⟩ := exists_front_of_callOpening? hnames hopening
  obtain ⟨inner, rest, rfl, hpaired, hquote, hlength⟩ := (Rest.of_still hfront h).exists_region rfl
  rw [List.drop_succ_cons, List.drop_left, hlength, Option.some.injEq] at hregion
  exact ⟨front, inner, rest, rfl, hfront, hpaired, hquote, by omega⟩

end Calls

/-! ## What a cut keeps -/

/-- A call that is cut out of a nested text begins in code and leads the scan back to where it
was. -/
lemma Nested.run_call (h : Nested (before ++ (call ++ behind)))
    (hfound : callFrom [defaultName] {} (before ++ (call ++ behind))
      = some (before.length, call.length)) :
    (State.run {} before).IsCode ∧ (State.run {} before).run call = State.run {} before ∧
      ∃ rest, call ++ behind = '.' :: rest ∧
        callLength? [defaultName] ('.' :: rest) = some call.length := by
  obtain ⟨before', rest, heq, hquote, hlength, hlen⟩ := callFrom_eq_some hfound
  obtain ⟨rfl, hrest⟩ := List.append_inj heq hlen.symm
  have hcode := State.isCode_run hquote
  have hplain : Plain {} ('.' :: rest) := hrest ▸ h.balanced.plain.of_code hcode
  obtain ⟨call', behind', hcall, hlen', hdefault⟩ := callLength?_eq_some hplain hlength
  obtain ⟨rfl, -⟩ := List.append_inj (hrest.trans hcall) hlen'.symm
  exact ⟨hcode, hdefault.run _ hcode, rest, hrest, hlength⟩

/-- What every cut keeps is kept when all defaults are cut out. -/
lemma Nested.kept {motive : List Char → Prop}
    (hcut : ∀ {before call behind}, Nested (before ++ (call ++ behind)) →
      Nested (before ++ behind) →
      callFrom [defaultName] {} (before ++ (call ++ behind)) = some (before.length, call.length) →
      motive (before ++ (call ++ behind)) → motive (before ++ behind))
    (h : Nested text) (htext : motive text) : motive (Chain.withoutDefaults text) := by
  refine Nested.cutInduction
    (motive := fun text => motive text → motive (Chain.withoutDefaults text)) ?_ ?_ h htext
  · intro text h hnone htext
    rwa [withoutDefaults_of_none h.balanced.plain hnone]
  · intro before call behind h hrest hfound ih htext
    rw [withoutDefaults_cut h.balanced.plain hfound]
    exact ih (hcut h hrest hfound htext)

lemma callFrom_withoutDefaults (h : Nested text) :
    callFrom [defaultName] {} (withoutDefaults text) = none := by
  refine Nested.cutInduction (motive := fun text =>
    callFrom [defaultName] {} (withoutDefaults text) = none) ?_ ?_ h
  · intro text h hnone
    rwa [withoutDefaults_of_none h.balanced.plain hnone]
  · intro before call behind h _ hfound ih
    rwa [withoutDefaults_cut h.balanced.plain hfound]

/-- Separators at the top level are those that were there before. -/
lemma Uncut.withoutDefaults {separator : Char} (h : Nested text) (huncut : Uncut separator text) :
    Uncut separator (Chain.withoutDefaults text) := by
  refine h.kept ?_ huncut
  intro before call behind h _ hfound huncut index v hv
  obtain ⟨-, hback, -⟩ := h.run_call hfound
  obtain ⟨start, c, rest, heq, rfl⟩ := mem_trace.1 hv
  -- the visit is the same in the text before the cut, at another index
  have hsame : ∀ start' rest', before ++ (call ++ behind) = start' ++ c :: rest' →
      State.run {} start' = State.run {} start →
      ((visit (State.run {} start) (index + start.length) c).outside &&
        (visit (State.run {} start) (index + start.length) c).char == separator &&
        (visit (State.run {} start) (index + start.length) c).after.atTopLevel) = false := by
    intro start' rest' heq' hrun
    have hvisit := huncut 0 _ (mem_trace.2 ⟨start', c, rest', heq', rfl⟩)
    rw [hrun] at hvisit
    exact hvisit
  rcases List.append_eq_append_iff.1 heq with ⟨middle, rfl, hmiddle⟩ | ⟨middle, hfront, hmiddle⟩
  · refine hsame (before ++ (call ++ middle)) rest (by rw [hmiddle]; simp) ?_
    rw [State.run_append, State.run_append, hback, State.run_append]
  · cases middle with
    | nil =>
      rw [List.append_nil] at hfront
      rw [List.nil_append] at hmiddle
      refine hsame (before ++ call) rest (by rw [← hmiddle]; simp) ?_
      rw [State.run_append, hback, hfront]
    | cons d middle =>
      obtain ⟨rfl, -⟩ := List.cons.inj hmiddle
      exact hsame start (middle ++ (call ++ behind)) (by rw [hfront]; simp) rfl

/-! ## Texts that contain their calls -/

/-- A nested text with paired brackets, so that its calls end with it. -/
structure Contained (text : List Char) : Prop where
  nested : Nested text
  paired : Paired text

namespace Contained

lemma neutral (h : Contained text) : Neutral text :=
  (neutral_iff_paired h.nested.balanced.plain).2 h.paired

lemma rest (h : Contained text) : Rest text where
  ends := by
    have hplain := h.nested.balanced.plain
    exact endsInCode_iff.2 ⟨ended_of_plain hplain, by
      rw [shed_of_plain hplain, h.nested.balanced.final]⟩
  paired := ⟨[], h.paired⟩

lemma rest_behind (h : Contained (before ++ '.' :: behind))
    (hcode : (State.run {} before).quote = none) : Rest behind := by
  have hv : visit (State.run {} before) (0 + before.length) '.'
      ∈ walk (before ++ '.' :: behind) := by
    unfold walk
    rw [visits_of_plain h.nested.balanced.plain]
    exact mem_trace.2 ⟨before, '.', behind, rfl, rfl⟩
  have hrest := h.rest.drop hv (by simp [visit, hcode, isQuote])
  have hdrop : (before ++ '.' :: behind).drop (before.length + 1) = behind := by
    rw [← List.drop_drop, List.drop_left, List.drop_one, List.tail_cons]
  rw [show (visit (State.run {} before) (0 + before.length) '.').index + 1 = before.length + 1 by
    simp [visit], hdrop] at hrest
  exact hrest

/-- The first call is the one of the text alone, or the first one behind it. -/
lemma callFrom_append (h : Contained text) (hquits : Quits more) :
    callFrom [defaultName] {} (text ++ more) = (callFrom [defaultName] {} text).or
      (later text.length (callFrom [defaultName] {} more)) := by
  rw [Chain.callFrom_append, h.nested.balanced.final]
  rintro before behind rfl hcode
  exact callLength?_append (by simpa using isIdentifier_defaultName) (h.rest_behind hcode) hquits

/-- A call that is cut out are characters that leave the scan as it is, and parentheses around
brackets that are paired. -/
lemma exists_call (h : Contained (before ++ (call ++ behind)))
    (hfound : callFrom [defaultName] {} (before ++ (call ++ behind))
      = some (before.length, call.length)) :
    ∃ front inner, call = front ++ '(' :: (inner ++ [')']) ∧ (∀ c ∈ front, IsStill c) ∧
      Paired inner ∧ (State.run {} (shed {} inner)).quote = none := by
  obtain ⟨hcode, -, rest, heq, hlength⟩ := h.nested.run_call hfound
  have hbehind : Rest rest := by
    rw [heq] at h
    exact h.rest_behind hcode.1
  -- the length that was found is that of the call's opening, its argument list and the
  -- parenthesis
  obtain ⟨front, inner, tail, rfl, hfront, hinner, hquote, hlen⟩ :=
    exists_of_callLength? (by simpa using isIdentifier_defaultName) hbehind hlength
  refine ⟨'.' :: front, inner, ?_, ?_, hinner, hquote⟩
  · have hsplit : call ++ behind = ('.' :: front ++ '(' :: (inner ++ [')'])) ++ tail := by
      rw [heq]
      simp
    refine (List.append_inj hsplit ?_).1
    rw [hlen]
    simp only [List.length_cons, List.length_append, List.length_nil]
    omega
  · intro c hc
    rcases List.mem_cons.1 hc with rfl | hc
    · exact ⟨rfl, by decide⟩
    · exact hfront c hc

lemma neutral_call (h : Contained (before ++ (call ++ behind)))
    (hfound : callFrom [defaultName] {} (before ++ (call ++ behind))
      = some (before.length, call.length)) : Neutral call := by
  obtain ⟨hcode, -, -⟩ := h.nested.run_call hfound
  obtain ⟨front, inner, rfl, hfront, hinner, hquote⟩ := h.exists_call hfound
  have hfinal := (Balanced.of_still hfront).final
  have hplain : Plain {} inner := by
    have hcall := (h.nested.balanced.plain.of_code hcode).front
    have hparens := hcall.of_code (by rw [hfinal]; exact State.isCode_empty)
    exact (@Plain.of_code ['('] _ hparens ⟨rfl, rfl⟩).front
  rw [shed_of_plain hplain] at hquote
  rw [neutral_append (by rw [hfinal]; exact State.isCode_empty) (neutral_still hfront)]
  exact neutral_parens ((neutral_iff_paired hplain).2 hinner) hquote

/-- The brackets stay paired where a call is cut out. -/
lemma paired_cut (h : Contained (before ++ (call ++ behind)))
    (hfound : callFrom [defaultName] {} (before ++ (call ++ behind))
      = some (before.length, call.length)) (hrest : Nested (before ++ behind)) :
    Paired (before ++ behind) := by
  obtain ⟨hcode, hback, -⟩ := h.nested.run_call hfound
  rw [← neutral_iff_paired hrest.balanced.plain,
    ← neutral_cut hcode hback (h.neutral_call hfound)]
  exact h.neutral

lemma withoutDefaults (h : Contained text) : Contained (Chain.withoutDefaults text) where
  nested := h.nested.withoutDefaults
  paired := h.nested.kept (motive := Paired)
    (fun hnested hrest hfound hpaired => paired_cut ⟨hnested, hpaired⟩ hfound hrest) h.paired

end Contained

/-! ## Joined texts -/

/-- Between texts that bring no calls of their own and take none away, the defaults are those of the
text. -/
lemma withoutDefaults_between {back : List Char}
    (hplain : ∀ {text}, Nested text → Plain {} (front ++ (text ++ back)))
    (hturn : ∀ {text}, Nested text → callFrom [defaultName] {} (front ++ (text ++ back))
      = later front.length (callFrom [defaultName] {} text)) (h : Nested text) :
    withoutDefaults (front ++ (text ++ back)) = front ++ (withoutDefaults text ++ back) := by
  refine Nested.cutInduction (motive := fun text =>
    withoutDefaults (front ++ (text ++ back)) = front ++ (withoutDefaults text ++ back)) ?_ ?_ h
  · intro text h hnone
    rw [withoutDefaults_of_none h.balanced.plain hnone,
      withoutDefaults_of_none (hplain h) (by rw [hturn h, hnone, later_none])]
  · intro before call behind h _ hfound ih
    have hwhole := hplain h
    have hfound' := hturn h
    rw [hfound, later_some] at hfound'
    rw [withoutDefaults_cut h.balanced.plain hfound, ← ih]
    simp only [List.append_assoc] at hwhole hfound' ⊢
    rw [← List.append_assoc front] at hwhole hfound' ⊢
    rw [← List.append_assoc front]
    refine withoutDefaults_cut hwhole ?_
    rw [hfound', List.length_append]

/-- Nested texts with a comma between them. -/
lemma Nested.comma (h : Nested text) (hmore : Nested more) : Nested (text ++ ',' :: more) :=
  h.append (hmore.cons rfl (by decide)) (by simp) ⟨by simp, by simp⟩

/-- The first call is the one of the first text, or the first one of the second. -/
lemma callFrom_comma (h : Contained text) (more : List Char) :
    callFrom [defaultName] {} (text ++ ',' :: more) = (callFrom [defaultName] {} text).or
      (later (text.length + 1) (callFrom [defaultName] {} more)) := by
  have hquits : Quits (',' :: more) := quits_of_isSeparator (by decide) (by decide) more
  rw [h.callFrom_append hquits, callFrom_cons (by decide), later_later]
  rfl

/-- Each of two texts with a comma between them loses its own defaults. -/
lemma withoutDefaults_comma (h : Contained text) (hmore : Nested more) :
    withoutDefaults (text ++ ',' :: more)
      = withoutDefaults text ++ ',' :: withoutDefaults more := by
  have hsecond : ∀ {text}, Contained text → callFrom [defaultName] {} text = none →
      withoutDefaults (text ++ ',' :: more) = text ++ ',' :: withoutDefaults more := by
    intro text h hnone
    have hbetween := @withoutDefaults_between more (text ++ [',']) []
      (fun hmore => by simpa using (h.nested.comma hmore).balanced.plain)
      (fun hmore => by simpa [hnone] using callFrom_comma h _) hmore
    simpa using hbetween
  refine Nested.cutInduction (motive := fun text => Contained text →
    withoutDefaults (text ++ ',' :: more) = withoutDefaults text ++ ',' :: withoutDefaults more)
    ?_ ?_ h.nested h
  · intro text hnested hnone h
    rw [withoutDefaults_of_none hnested.balanced.plain hnone, hsecond h hnone]
  · intro before call behind hnested hrest hfound ih h
    have hwhole := (hnested.comma hmore).balanced.plain
    have hfound' := callFrom_comma h more
    rw [hfound, Option.some_or] at hfound'
    rw [withoutDefaults_cut hnested.balanced.plain hfound, ← ih ⟨hrest, h.paired_cut hfound hrest⟩]
    simp only [List.append_assoc] at hwhole hfound' ⊢
    exact withoutDefaults_cut hwhole hfound'

lemma nested_intercalate {parts : List (List Char)} (h : ∀ part ∈ parts, Nested part) :
    Nested (List.intercalate [','] parts) := by
  induction parts with
  | nil => exact .nil
  | cons part rest ih =>
    have hrest := ih fun p hp => h p (List.mem_cons_of_mem _ hp)
    cases rest with
    | nil => simpa using h part List.mem_cons_self
    | cons next rest =>
      rw [List.intercalate_cons_cons, List.append_assoc]
      exact (h part List.mem_cons_self).comma hrest

/-- Nested texts with a comma and blanks between them. -/
lemma nested_listed {gap : List Char} (hgap : Blanks gap) {parts : List (List Char)}
    (h : ∀ part ∈ parts, Nested part) : Nested (List.intercalate (',' :: gap) parts) := by
  cases parts with
  | nil => exact .nil
  | cons part rest =>
    rw [intercalate_pad]
    refine nested_intercalate fun other hother => ?_
    rcases List.mem_cons.1 hother with rfl | hother
    · exact h other List.mem_cons_self
    · obtain ⟨next, hnext, rfl⟩ := List.mem_map.1 hother
      exact (h next (List.mem_cons_of_mem _ hnext)).unmarked hgap.not_mem_marks

/-- The defaults of joined texts are cut out of each text by itself. -/
theorem withoutDefaults_intercalate {parts : List (List Char)}
    (h : ∀ part ∈ parts, Contained part) :
    withoutDefaults (List.intercalate [','] parts)
      = List.intercalate [','] (parts.map withoutDefaults) := by
  induction parts with
  | nil => exact withoutDefaults_of_none trivial rfl
  | cons part rest ih =>
    have hrest := ih fun p hp => h p (List.mem_cons_of_mem _ hp)
    cases rest with
    | nil => simp
    | cons next rest =>
      have hnested := nested_intercalate fun p hp => (h p (List.mem_cons_of_mem part hp)).nested
      rw [List.intercalate_cons_cons, List.append_assoc, List.map_cons, List.map_cons,
        List.intercalate_cons_cons, List.append_assoc]
      rw [List.map_cons] at hrest
      rw [← hrest]
      exact withoutDefaults_comma (h part List.mem_cons_self) hnested

/-! ## Texts in front -/

/-- A balanced text in whose code no character means anything to the scan. -/
structure Markless (text : List Char) : Prop where
  balanced : Balanced text
  code : ∀ before c behind, text = before ++ c :: behind → (State.run {} before).quote = none →
    isQuote c = false → c ∉ marks

namespace Markless

lemma of_forall (h : ∀ c ∈ text, c ∉ marks) : Markless text where
  balanced := .of_still fun c hc => isStill_of_not_mem_marks (h c hc)
  code before c behind heq _ _ := h c (by rw [heq]; simp)

/-- No comment opens where such a text ends. -/
lemma balanced_append (h : Markless front) (htext : Balanced text) : Balanced (front ++ text) where
  plain := by
    have hplain := h.balanced.plain
    rw [← List.append_nil front] at hplain
    refine hplain.join ?_ (by rw [h.balanced.final]; exact htext.plain)
    intro before heq hcode
    exact h.code before '/' [] heq hcode rfl (by decide)
  final := by rw [State.run_append, h.balanced.final, htext.final]
  closes := by
    intro index v hv
    rw [trace_append, h.balanced.final] at hv
    rcases List.mem_append.1 hv with hv | hv
    · exact h.balanced.closes index v hv
    · exact htext.closes _ v hv

/-- A character of the code that means something stands behind such a text. -/
lemma exists_behind (h : Markless front) {c : Char} (heq : front ++ text = before ++ c :: behind)
    (hcode : (State.run {} before).quote = none) (hquote : isQuote c = false) (hmark : c ∈ marks) :
    ∃ middle, before = front ++ middle ∧ text = middle ++ c :: behind ∧
      (State.run {} middle).quote = none := by
  rcases List.append_eq_append_iff.1 heq with ⟨middle, rfl, hmiddle⟩ | ⟨middle, rfl, hmiddle⟩
  · rw [State.run_append, h.balanced.final] at hcode
    exact ⟨middle, rfl, hmiddle, hcode⟩
  · cases middle with
    | nil => exact ⟨[], by simp, hmiddle.symm, rfl⟩
    | cons d middle =>
      obtain ⟨rfl, -⟩ := List.cons.inj hmiddle
      exact absurd hmark (h.code before c middle rfl hcode hquote)

/-- No slash comes to stand before a dot there. -/
lemma nested_append (h : Markless front) (htext : Nested text) : Nested (front ++ text) where
  balanced := h.balanced_append htext.balanced
  slash before behind heq hcode := by
    obtain ⟨middle, -, hmiddle, hcode'⟩ := h.exists_behind heq hcode rfl (by decide)
    exact htext.slash middle behind hmiddle hcode'

lemma append (h : Markless front) (htext : Markless text) : Markless (front ++ text) where
  balanced := h.balanced_append htext.balanced
  code before c behind heq hcode hquote hmark := by
    obtain ⟨middle, -, hmiddle, hcode'⟩ := h.exists_behind heq hcode hquote hmark
    exact htext.code middle c behind hmiddle hcode' hquote hmark

lemma nested (h : Markless front) : Nested front := by
  have hnested := h.nested_append .nil
  rwa [List.append_nil] at hnested

/-- Nothing is cut out of such a text. -/
lemma withoutDefaults (hfront : Markless front) (h : Nested text) :
    Chain.withoutDefaults (front ++ text) = front ++ Chain.withoutDefaults text := by
  have hbetween := @withoutDefaults_between text front [] ?_ ?_ h
  · simpa using hbetween
  · intro text h
    rw [List.append_nil]
    exact (hfront.balanced_append h.balanced).plain
  · intro text h
    rw [List.append_nil, callFrom_of_dotless, hfront.balanced.final]
    intro before behind heq hcode
    exact hfront.code before '.' behind heq hcode rfl (by decide)

end Markless

/-- What is left of a nested text behind a balanced one. -/
lemma Nested.of_append (h : Nested (front ++ text)) (hfront : State.run {} front = {}) :
    Nested text := by
  obtain ⟨hplain, hfinal, hcloses⟩ := balanced_iff.1 h.balanced
  have hrun : ∀ text, State.run {} (front ++ text) = State.run {} text := by
    intro text
    rw [State.run_append, hfront]
  refine ⟨balanced_iff.2 ⟨?_, ?_, ?_⟩, ?_⟩
  · have hbehind := hplain.of_append
    rwa [hfront] at hbehind
  · rwa [hrun] at hfinal
  · rintro before behind rfl
    rw [← hrun]
    exact hcloses (front ++ before) behind (by simp)
  · rintro before behind rfl
    rw [← hrun]
    exact h.slash (front ++ before) behind (by simp)

/-! ## Trimmed texts -/

/-- No call comes up where blanks are taken from the ends of a text. -/
lemma withoutDefaults_trim (h : Plain {} text) (hnone : callFrom [defaultName] {} text = none) :
    withoutDefaults (trim text) = trim text := by
  obtain ⟨lead, trail, hlead, -, heq⟩ := exists_trim text
  generalize trim text = middle at heq
  subst heq
  have hlead' : State.run {} lead = {} :=
    (Balanced.of_still fun c hc => isStill_of_not_mem_marks (hlead.not_mem_marks c hc)).final
  have hplain : Plain {} (middle ++ trail) := by
    have hbehind := h.of_append
    rwa [hlead'] at hbehind
  refine withoutDefaults_of_none hplain.front (callFrom_eq_none_iff.2 ?_)
  rintro before behind rfl hcode
  have hlonger : callLength? [defaultName] ('.' :: (behind ++ trail)) = none := by
    refine callFrom_eq_none_iff.1 hnone (lead ++ before) (behind ++ trail) (by simp) ?_
    rwa [State.run_append, hlead']
  rw [Option.eq_none_iff_forall_ne_some]
  intro n hn
  have hlength := callLength?_append_of_some (by simpa using isIdentifier_defaultName) hn trail
  exact absurd (hlonger.symm.trans hlength) (by simp)

/-- A text that begins with no blank has blanks only behind what is left of it. -/
lemma exists_trim_of_head {c : Char} (hhead : text.head? = some c) (hblank : isBlank c = false) :
    ∃ trail, Blanks trail ∧ text = trim text ++ trail ∧ trim text ≠ [] := by
  obtain ⟨lead, trail, hlead, htrail, heq⟩ := exists_trim text
  cases lead with
  | cons d lead =>
    rw [heq, List.cons_append, List.head?_cons, Option.some.injEq] at hhead
    have hd := hlead d List.mem_cons_self
    rw [hhead, hblank] at hd
    exact absurd hd (by decide)
  | nil =>
    refine ⟨trail, htrail, heq, ?_⟩
    intro hnil
    rw [heq, hnil] at hhead
    have hc := htrail c (List.mem_of_mem_head? hhead)
    rw [hblank] at hc
    exact absurd hc (by decide)

/-- A text without defaults and blanks at its ends stays as it is. -/
theorem trim_withoutDefaults_idem (h : Nested text) :
    trim (withoutDefaults (trim (withoutDefaults text))) = trim (withoutDefaults text) := by
  rw [withoutDefaults_trim h.withoutDefaults.balanced.plain (callFrom_withoutDefaults h), trim_trim]

end SlideContract.Chain
