import SlideContract.Layout.Metadata
import SlideContract.Proofs.Declaration.Single
import SlideContract.Proofs.Scan.Code

/-!
# Constants of a layout

The constants that name a layout are searched in the source as it stands, and the first text that
looks like one counts, be it code or not. Its literal is read up to its own closing quote, and holds
no line break. So a constant is read back if its name is first mentioned where it is declared, and
comments make no difference if that is so with them and without them.

* `closings_inside`, `not_line_of_literal?`: the literals that are read;
* `firstConstant?_eq_some_iff`: the constant that counts;
* `constantValue_of_declares`: the value of a constant;
* `metadata_of_declares`: the metadata of a source with all three constants;
* `constantValue_literal_iff`: which texts are read back from their literals;
* `metadata_stripComments`: the metadata of a source without its comments.
-/

namespace SlideContract.Layout
open Scan Text Chain Declaration

variable {quote : Char} {body text rest source : List Char} {name : String}

/-! ## Literals -/

lemma closings_fst (quote c : Char) (rest : List Char) :
    (closings quote (c :: rest)).1
      = ((if c = '\\' ∧ rest.head? ≠ some '\n' then (closings quote rest).2.map (· + 2) else none).or
          (if c ≠ quote ∧ c ≠ '\n' then (closings quote rest).1.map (· + 1) else none)).or
        (if c = quote then some 1 else none) := rfl

lemma closings_snd (quote : Char) (text : List Char) :
    (closings quote text).2 = (closings quote text.tail).1 := by
  cases text <;> rfl

/-- A text between quotes and on one line: what the literal of a constant may hold. -/
structure OneLine (quote : Char) (body : List Char) : Prop where
  isQuote : isQuote quote = true
  inside : Inside quote body
  line : '\n' ∉ body

/-- A literal ends at its own closing quote. -/
lemma closings_inside (hquote : quote ≠ '\\') (h : Inside quote body) (hline : '\n' ∉ body)
    (rest : List Char) :
    (closings quote (body ++ quote :: rest)).1 = some (body.length + 1) := by
  -- by the string's own parts: an escaped character is passed over with its backslash
  induction h with
  | nil =>
    rw [List.nil_append, closings_fst, if_neg fun h => hquote h.1, if_neg fun h => h.1 rfl,
      if_pos rfl]
    rfl
  | @plain c more hbackslash hne _ _ ih =>
    have hc : c ≠ '\n' := fun hc => hline (hc ▸ List.mem_cons_self)
    have hmore := ih fun hmem => hline (List.mem_cons_of_mem _ hmem)
    rw [List.cons_append, closings_fst, if_neg fun h => hbackslash h.1, if_pos ⟨hne, hc⟩, hmore]
    rfl
  | @escaped c more _ ih =>
    have hc : c ≠ '\n' := fun hc => hline (hc ▸ by simp)
    have hmore := ih fun hmem => hline (by simp [hmem])
    have hhead : (c :: (more ++ quote :: rest)).head? ≠ some '\n' := by simpa using hc
    rw [List.cons_append, List.cons_append, closings_fst, if_pos ⟨rfl, hhead⟩, closings_snd,
      List.tail_cons, hmore]
    rfl

lemma literal?_enclosed (h : OneLine quote body) (rest : List Char) :
    literal? (enclosed quote body ++ rest) = some (enclosed quote body) := by
  have hread := closings_inside (quote_chars h.isQuote).1 h.inside h.line rest
  have htext : enclosed quote body ++ rest = quote :: (body ++ quote :: rest) := by
    simp [enclosed]
  have htake : (enclosed quote body ++ rest).take (body.length + 2) = enclosed quote body :=
    List.take_left' (by simp [enclosed])
  rw [htext] at htake ⊢
  rw [literal?, if_pos h.isQuote, hread, Option.map_some, htake]

/-- What is read up to a closing quote is on one line. -/
lemma closings_line (hquote : quote ≠ '\n') (text : List Char) :
    ∀ n ∈ (closings quote text).1, '\n' ∉ text.take n := by
  -- an escape is read as a whole, so that the induction needs the text from the second character on
  suffices h : ∀ text : List Char, (∀ n ∈ (closings quote text).1, '\n' ∉ text.take n) ∧
      ∀ n ∈ (closings quote text.tail).1, '\n' ∉ text.tail.take n from (h text).1
  intro text
  induction text with
  | nil =>
    have hnil : ∀ n ∈ (closings quote []).1, '\n' ∉ ([] : List Char).take n :=
      fun n hn => absurd hn (by simp [closings])
    exact ⟨hnil, hnil⟩
  | cons c rest ih =>
    obtain ⟨hone, htwo⟩ := ih
    refine ⟨fun n hn => ?_, hone⟩
    rw [closings_fst, Option.mem_def, Option.or_eq_some_iff, Option.or_eq_some_iff] at hn
    rcases hn with (hescape | ⟨-, hplain⟩) | ⟨-, hclose⟩
    · split at hescape
      · rename_i h
        obtain ⟨m, hm, rfl⟩ := Option.map_eq_some_iff.1 hescape
        rw [closings_snd] at hm
        have hrest := htwo m hm
        cases rest with
        | nil => simp [h.1]
        | cons d more =>
          have hd : d ≠ '\n' := by simpa using h.2
          simpa [h.1, Ne.symm hd] using hrest
      · exact absurd hescape (by simp)
    · split at hplain
      · rename_i h
        obtain ⟨m, hm, rfl⟩ := Option.map_eq_some_iff.1 hplain
        simpa [Ne.symm h.2] using hone m hm
      · exact absurd hplain (by simp)
    · split at hclose
      · rename_i h
        rw [← Option.some.inj hclose, h]
        simpa using Ne.symm hquote
      · exact absurd hclose (by simp)

/-- No literal that is read holds a line break. -/
lemma not_line_of_literal? {literal : List Char} (h : literal? text = some literal) :
    '\n' ∉ literal := by
  unfold literal? at h
  split at h
  · exact absurd h (by simp)
  · rename_i quote rest
    split at h
    · rename_i hquote
      have hne := ne_line_of_isQuote hquote
      obtain ⟨n, hn, rfl⟩ := Option.map_eq_some_iff.1 h
      simpa [Ne.symm hne] using closings_line hne rest n hn
    · exact absurd h (by simp)

/-! ## Constants -/

/-- The names of the constants that are searched. -/
def constantNames : List String := ["layoutId", "layoutName", "layoutDescription"]

/-- Their names are words, and none begins like the keyword. -/
lemma constantNames_chars (h : name ∈ constantNames) :
    (∀ c ∈ name.toList, isWord c = true) ∧ name.toList.head? = some 'l' := by
  have hall : (constantNames.all fun name =>
      name.toList.all isWord && name.toList.head? == some 'l') = true := by
    decide +kernel
  obtain ⟨hword, hhead⟩ := Bool.and_eq_true_iff.1 (List.all_eq_true.1 hall name h)
  exact ⟨List.all_eq_true.1 hword, beq_iff_eq.1 hhead⟩

/-- The blanks between the words of a declaration. -/
structure Spacing where
  gap : List Char
  left : List Char
  right : List Char
  gap_blanks : Blanks gap
  left_blanks : Blanks left
  right_blanks : Blanks right
  gap_ne : gap ≠ []

/-- The declaration of a constant. -/
def Spacing.declared (spacing : Spacing) (name : String) (literal : List Char) : List Char :=
  "const".toList ++ (spacing.gap ++ (name.toList ++
    (spacing.left ++ '=' :: (spacing.right ++ literal))))

variable {spacing : Spacing} {before : Option Char}

/-- What follows the keyword of a declaration. -/
lemma afterKeyword?_gap {keyword : String} {gap : List Char} (hgap : Blanks gap) (hne : gap ≠ [])
    (hstarts : Starts rest) :
    afterKeyword? keyword (keyword.toList ++ (gap ++ rest)) = some rest := by
  have hhead : (gap ++ rest).head?.any isBlank = true := by
    obtain ⟨c, more, rfl⟩ := List.exists_cons_of_ne_nil hne
    exact hgap c List.mem_cons_self
  unfold afterKeyword?
  rw [after?_eq_some_iff.2 rfl, Option.bind_eq_bind, Option.bind_some, if_pos hhead,
    dropBlanks_append hgap, dropBlanks_of_starts hstarts]

/-- The literal of a constant is read where its declaration stands. -/
lemma constantForm_declared (hname : name ∈ constantNames) (h : OneLine quote body)
    (hbefore : atWordStart before = true) (rest : List Char) :
    constantForm name before (spacing.declared name (enclosed quote body) ++ rest)
      = some (enclosed quote body) := by
  have hl := (constantNames_chars hname).2
  have hstarts : ∀ more, Starts (name.toList ++ more) := by
    intro more
    obtain ⟨tail, hcons⟩ := List.head?_eq_some_iff.1 hl
    rw [hcons]
    exact starts_cons (by decide) _
  have hquote : Starts (enclosed quote body ++ rest) :=
    starts_cons (quote_chars h.isQuote).2.2.2 _
  have hequals : dropBlanks (spacing.left ++ '=' :: (spacing.right ++ (enclosed quote body ++ rest)))
      = '=' :: (spacing.right ++ (enclosed quote body ++ rest)) := by
    rw [dropBlanks_append spacing.left_blanks, dropBlanks_of_starts (starts_cons (by decide) _)]
  -- each part of the declaration is followed by one that cannot belong to it, so all are read as
  -- written
  have htext : spacing.declared name (enclosed quote body) ++ rest
      = "const".toList ++ (spacing.gap ++ (name.toList ++ (spacing.left ++
          '=' :: (spacing.right ++ (enclosed quote body ++ rest))))) := by
    show ("const".toList ++ (spacing.gap ++ (name.toList ++
      (spacing.left ++ '=' :: (spacing.right ++ enclosed quote body))))) ++ rest = _
    simp only [List.append_assoc, List.cons_append]
  have hafter : ∀ more, after? name.toList (name.toList ++ more) = some more :=
    fun more => after?_eq_some_iff.2 rfl
  unfold constantForm
  rw [htext, hbefore, afterKeyword?_gap spacing.gap_blanks spacing.gap_ne (hstarts _),
    Option.bind_eq_bind, Option.bind_some, hafter, Option.bind_some, hequals]
  simp only [Bool.not_true, Bool.false_eq_true, if_false, dropBlanks_append spacing.right_blanks,
    dropBlanks_of_starts hquote, literal?_enclosed h]

/-- What a declaration begins with. -/
lemma exists_of_constantForm {literal : List Char}
    (h : constantForm name before text = some literal) :
    (∃ gap more, Blanks gap ∧ text = "const".toList ++ (gap ++ (name.toList ++ more))) ∧
      ∃ more, literal? more = some literal := by
  unfold constantForm at h
  split at h
  · exact absurd h (by simp)
  · rw [Option.bind_eq_bind, Option.bind_eq_some_iff] at h
    obtain ⟨behind, hkeyword, h⟩ := h
    rw [Option.bind_eq_some_iff] at h
    obtain ⟨more, hmore, h⟩ := h
    obtain ⟨gap, hgap, htext⟩ := exists_of_afterKeyword? hkeyword
    rw [after?_eq_some_iff.1 hmore] at htext
    refine ⟨⟨gap, more, hgap, htext⟩, ?_⟩
    split at h
    · exact ⟨_, h⟩
    · exact absurd h (by simp)

/-! ## The first constant -/

/-- A text in front of a constant: it does not mention the name, and a word may begin behind it. -/
structure Leads (name : String) (front : List Char) : Prop where
  unmentioned : ¬ name.toList <:+: front
  word : atWordStart front.getLast? = true

/-- No word ends where such a text does. -/
lemma Leads.eq_nil_of_word {front word : List Char} (h : Leads name (front ++ word))
    (hword : ∀ c ∈ word, isWord c = true) : word = [] := by
  by_contra hne
  have hlast := h.word
  rw [List.getLast?_append, List.getLast?_eq_some_getLast hne] at hlast
  simp [atWordStart, hword _ (List.getLast_mem hne)] at hlast

/-- No constant of the name begins in front. -/
lemma Leads.constantForm_eq_none (hname : name ∈ constantNames) {front behind : List Char}
    (h : Leads name (front ++ behind)) (hne : behind ≠ []) (text : List Char) :
    constantForm name before (behind ++ 'c' :: text) = none := by
  obtain ⟨hword, hl⟩ := constantNames_chars hname
  obtain ⟨tail, hcons⟩ := List.head?_eq_some_iff.1 hl
  have hconst : ∀ c ∈ "const".toList, isWord c = true := List.all_eq_true.1 (by decide +kernel)
  rw [Option.eq_none_iff_forall_ne_some]
  intro literal hform
  obtain ⟨⟨gap, more, hgap, heq⟩, -⟩ := exists_of_constantForm hform
  -- a constant that begins in front would end in its keyword, in the blanks, in its name or
  -- behind it
  rcases List.append_eq_append_iff.1 heq with ⟨beyond, hkeyword, -⟩ | ⟨rest, rfl, hrest⟩
  · -- the keyword would run on behind the front, which ends with no word
    refine hne (h.eq_nil_of_word fun c hc => hconst c ?_)
    rw [hkeyword]
    exact List.mem_append_left _ hc
  rcases List.append_eq_append_iff.1 hrest with ⟨part, rfl, hpart⟩ | ⟨beyond, hblanks, hover⟩
  · rcases List.append_eq_append_iff.1 hpart with ⟨others, rfl, -⟩ | ⟨beyond, hover, hbehind⟩
    · exact h.unmentioned ⟨front ++ ("const".toList ++ gap), others, by simp⟩
    · -- a name that runs on behind the front begins behind it, but not like the keyword there
      have hpart : part = [] := by
        have happend : front ++ ("const".toList ++ (gap ++ part))
            = (front ++ ("const".toList ++ gap)) ++ part := by
          simp
        rw [happend] at h
        refine h.eq_nil_of_word fun c hc => hword c ?_
        rw [hover]
        exact List.mem_append_left _ hc
      rw [hpart, List.nil_append] at hover
      rw [← hover, hcons] at hbehind
      exact absurd (List.cons.inj hbehind).1 (by decide)
  · -- no blank stands behind the front
    cases beyond with
    | nil =>
      rw [List.nil_append, hcons] at hover
      exact absurd (List.cons.inj hover).1 (by decide)
    | cons c beyond =>
      have hblank := hgap 'c' (by rw [hblanks, (List.cons.inj hover).1]; simp)
      exact absurd hblank (by decide)

lemma getLast?_cons_or (c : Char) (text : List Char) (before : Option Char) :
    (c :: text).getLast?.or before = text.getLast?.or (some c) := by
  rw [List.getLast?_cons]
  cases text.getLast? <;> rfl

/-- The literal that is found is that of the first text that looks like the constant. -/
theorem firstConstant?_eq_some_iff {literal : List Char} :
    firstConstant? name before source = some literal ↔
      ∃ front text, source = front ++ text ∧
        constantForm name (front.getLast?.or before) text = some literal ∧
        ∀ start behind, front = start ++ behind → behind ≠ [] →
          constantForm name (start.getLast?.or before) (behind ++ text) = none := by
  -- along the source: either the constant begins here, or it is the first in the rest and does
  -- not begin here
  induction source generalizing before with
  | nil =>
    refine iff_of_false (by simp [firstConstant?]) ?_
    rintro ⟨front, text, hnil, hform, -⟩
    obtain ⟨⟨gap, more, -, heq⟩, -⟩ := exists_of_constantForm hform
    rw [(List.append_eq_nil_iff.1 hnil.symm).2] at heq
    exact absurd heq (by simp)
  | cons c rest ih =>
    rw [firstConstant?, Option.or_eq_some_iff, ih]
    constructor
    · rintro (hform | ⟨hnone, front, text, rfl, hform, hfirst⟩)
      · refine ⟨[], c :: rest, rfl, hform, fun start behind hnil hne => ?_⟩
        exact absurd (List.append_eq_nil_iff.1 hnil.symm).2 hne
      · refine ⟨c :: front, text, rfl, by rwa [getLast?_cons_or], fun start behind heq hne => ?_⟩
        cases start with
        | nil =>
          rw [← (show c :: front = behind from heq)]
          exact hnone
        | cons d start =>
          obtain ⟨rfl, hfront⟩ := List.cons.inj heq
          rw [getLast?_cons_or]
          exact hfirst start behind hfront hne
    · rintro ⟨front, text, heq, hform, hfirst⟩
      cases front with
      | nil =>
        rw [heq]
        exact Or.inl hform
      | cons d front =>
        obtain ⟨rfl, rfl⟩ := List.cons.inj heq
        rw [getLast?_cons_or] at hform
        refine Or.inr ⟨hfirst [] (c :: front) rfl (List.cons_ne_nil _ _), front, text, rfl, hform,
          fun start behind hfront hne => ?_⟩
        have hearlier := hfirst (c :: start) behind (by rw [hfront]; rfl) hne
        rwa [getLast?_cons_or] at hearlier

/-- A constant that is not mentioned is not found. -/
lemma firstConstant?_of_unmentioned (h : ¬ name.toList <:+: source) :
    firstConstant? name none source = none := by
  rw [Option.eq_none_iff_forall_ne_some]
  intro literal hfound
  obtain ⟨front, text, rfl, hform, -⟩ := firstConstant?_eq_some_iff.1 hfound
  obtain ⟨⟨gap, more, -, rfl⟩, -⟩ := exists_of_constantForm hform
  exact h ⟨front ++ ("const".toList ++ gap), more, by simp⟩

/-- The constant is declared in the source where its name is first mentioned. -/
def Declares (source : List Char) (name : String) (quote : Char) (body : List Char) : Prop :=
  ∃ (front : List Char) (spacing : Spacing) (behind : List Char), Leads name front ∧
    source = front ++ (spacing.declared name (enclosed quote body) ++ behind)

lemma firstConstant?_of_declares (hname : name ∈ constantNames) (hbody : OneLine quote body)
    (h : Declares source name quote body) :
    firstConstant? name none source = some (enclosed quote body) := by
  obtain ⟨front, spacing, behind, hleads, rfl⟩ := h
  obtain ⟨text, htext⟩ : ∃ text, spacing.declared name (enclosed quote body) ++ behind
      = 'c' :: text := ⟨_, rfl⟩
  refine firstConstant?_eq_some_iff.2 ⟨front, _, rfl, ?_, fun start rest hfront hne => ?_⟩
  · rw [Option.or_none]
    exact constantForm_declared hname hbody hleads.word behind
  · rw [hfront] at hleads
    rw [htext]
    exact hleads.constantForm_eq_none hname hne text

/-! ## Values -/

/-- The value, or the default if it is empty. -/
def orDefault (default : String) (value : List Char) : String :=
  if value = [] then default else String.ofList value

lemma constantValue_eq (source : List Char) (name default : String) :
    constantValue source name default
      = ((firstConstant? name none source >>= unquote).map (orDefault default)).getD default := by
  unfold constantValue
  cases firstConstant? name none source >>= unquote with
  | none => rfl
  | some value => cases value <;> rfl

/-- The value of a constant is what stands between the quotes of its literal with its escapes read,
whatever stands in front of it that does not mention it, and whatever stands behind it. -/
theorem constantValue_of_declares (hname : name ∈ constantNames) (hbody : OneLine quote body)
    (h : Declares source name quote body) (default : String) :
    constantValue source name default = orDefault default (unescape body) := by
  rw [constantValue_eq, firstConstant?_of_declares hname hbody h, Option.bind_eq_bind,
    Option.bind_some, unquote_enclosed hbody.isQuote]
  rfl

/-- The metadata of a source that declares all three constants, in any order. -/
theorem metadata_of_declares {quotes : String → Char} {bodies : String → List Char}
    (h : ∀ name ∈ constantNames, OneLine (quotes name) (bodies name) ∧
      Declares source name (quotes name) (bodies name)) :
    metadata source =
      { identifier := orDefault "unknown" (unescape (bodies "layoutId"))
        name := orDefault "Unknown Layout" (unescape (bodies "layoutName"))
        description := orDefault "" (unescape (bodies "layoutDescription")) } := by
  have hvalue : ∀ name ∈ constantNames, ∀ default,
      constantValue source name default = orDefault default (unescape (bodies name)) :=
    fun name hname => constantValue_of_declares hname (h name hname).1 (h name hname).2
  unfold metadata
  rw [hvalue _ (by decide), hvalue _ (by decide), hvalue _ (by decide)]

/-! ## Line breaks -/

/-- The value of no constant holds a line break. -/
lemma not_line_of_constantValue {default : String} (hdefault : '\n' ∉ default.toList) :
    '\n' ∉ (constantValue source name default).toList := by
  rw [constantValue_eq]
  cases hvalue : firstConstant? name none source >>= unquote with
  | none => exact hdefault
  | some value =>
    obtain ⟨literal, hliteral, hunquote⟩ := Option.bind_eq_some_iff.1 hvalue
    obtain ⟨_, _, _, hform, _⟩ := firstConstant?_eq_some_iff.1 hliteral
    obtain ⟨-, more, hmore⟩ := exists_of_constantForm hform
    show '\n' ∉ (orDefault default value).toList
    unfold orDefault
    split
    · exact hdefault
    · rw [String.toList_ofList]
      exact fun hmem => not_line_of_literal? hmore ((sublist_of_unquote hunquote).mem hmem)

lemma oneLine_escape {value : List Char} (hquote : isQuote quote = true) (hline : '\n' ∉ value) :
    OneLine quote (escape quote value) where
  isQuote := hquote
  inside := inside_escape fun hmem => absurd hmem hline
  line := by rwa [← line_mem_unescape_iff, unescape_escape (ne_line_of_isQuote hquote)]

lemma leads_nil (hname : name ∈ constantNames) : Leads name [] where
  unmentioned h := by
    have hl := (constantNames_chars hname).2
    rw [List.infix_nil.1 h] at hl
    exact absurd hl (by simp)
  word := rfl

/-- A text is read back from its literal exactly if it is on one line. -/
theorem constantValue_literal_iff (hname : name ∈ constantNames) (hquote : isQuote quote = true)
    {value : List Char} (hne : value ≠ []) {default : String}
    (hdefault : '\n' ∉ default.toList) (spacing : Spacing) (behind : List Char) :
    constantValue (spacing.declared name (literal quote value) ++ behind) name default
      = String.ofList value ↔ '\n' ∉ value := by
  constructor
  · intro heq
    have hvalue := @not_line_of_constantValue
      (spacing.declared name (literal quote value) ++ behind) name default hdefault
    rwa [heq, String.toList_ofList] at hvalue
  · intro hvalue
    have hread := constantValue_of_declares hname (oneLine_escape hquote hvalue)
      ⟨[], spacing, behind, leads_nil hname, rfl⟩ default
    rw [unescape_escape (ne_line_of_isQuote hquote), orDefault, if_neg hne] at hread
    exact hread

/-- A template on two lines is not read, though its quotes may span lines. -/
theorem constantValue_template :
    constantValue "const layoutName = `a\nb`;".toList "layoutName" "Unknown Layout"
      = "Unknown Layout" := by
  decide +kernel

/-! ## Comments -/

/-- The constant is declared in code, and its name is first mentioned there, with the comments and
without them. -/
def DeclaresInCode (source : List Char) (name : String) (quote : Char) (body : List Char) : Prop :=
  ∃ (front : List Char) (spacing : Spacing) (behind : List Char), EndsInCode front ∧
    Leads name front ∧ Leads name (stripComments front) ∧
    source = front ++ (spacing.declared name (enclosed quote body) ++ behind)

lemma DeclaresInCode.declares (h : DeclaresInCode source name quote body) :
    Declares source name quote body := by
  obtain ⟨front, spacing, behind, -, hleads, -, heq⟩ := h
  exact ⟨front, spacing, behind, hleads, heq⟩

/-- What stands in front of the literal means nothing to the scan. -/
lemma Spacing.declared_eq (hname : name ∈ constantNames) (spacing : Spacing)
    (literal : List Char) :
    ∃ front, (∀ c ∈ front, c ∉ marks) ∧ spacing.declared name literal = front ++ literal := by
  have hconst : ∀ c ∈ "const".toList, c ∉ marks := List.all_iff_forall_prop.1 (by decide)
  have heq : spacing.declared name literal = ("const".toList ++ (spacing.gap ++ (name.toList ++
      (spacing.left ++ '=' :: spacing.right)))) ++ literal := by
    show "const".toList ++ (spacing.gap ++ (name.toList ++
      (spacing.left ++ '=' :: (spacing.right ++ literal)))) = _
    simp only [List.append_assoc, List.cons_append]
  refine ⟨_, fun c hc => ?_, heq⟩
  simp only [List.mem_append, List.mem_cons] at hc
  -- keyword, blanks, name, blanks, `=` and blanks
  rcases hc with hc | hc | hc | hc | rfl | hc
  · exact hconst c hc
  · exact spacing.gap_blanks.not_mem_marks c hc
  · have hword := (constantNames_chars hname).1 c hc
    exact not_mem_marks_of_isNameChar (by rw [isNameChar, hword, Bool.true_or])
  · exact spacing.left_blanks.not_mem_marks c hc
  · decide
  · exact spacing.right_blanks.not_mem_marks c hc

/-- A declaration holds no comment. -/
lemma stripComments_declared (hname : name ∈ constantNames) (hbody : OneLine quote body)
    (behind : List Char) :
    stripComments (spacing.declared name (enclosed quote body) ++ behind)
      = spacing.declared name (enclosed quote body) ++ stripComments behind := by
  obtain ⟨front, hfront, heq⟩ := spacing.declared_eq hname (enclosed quote body)
  have hbalanced : Balanced (front ++ enclosed quote body) :=
    .unmarked hfront (balanced_enclosed hbody.isQuote hbody.inside).1
  have hjoins : Joins (front ++ enclosed quote body) behind := by
    intro hlast
    rw [enclosed, ← List.cons_append, ← List.append_assoc, List.getLast?_concat] at hlast
    exact absurd (Option.some.inj hlast) (quote_chars hbody.isQuote).2.1
  have hstrip := stripComments_of_plain hbalanced.plain
  rw [heq]
  conv_rhs => rw [← hstrip]
  refine hbalanced.commented.stripComments_append ?_
  rwa [hstrip]

lemma DeclaresInCode.stripped (hname : name ∈ constantNames) (hbody : OneLine quote body)
    (h : DeclaresInCode source name quote body) :
    Declares (stripComments source) name quote body := by
  obtain ⟨front, spacing, behind, hends, -, hleads, rfl⟩ := h
  obtain ⟨hended, hcode⟩ := endsInCode_iff.1 hends
  refine ⟨stripComments front, spacing, stripComments behind, hleads, ?_⟩
  rw [← stripComments_declared hname hbody]
  have hfollows : Follows (spacing.declared name (enclosed quote body) ++ behind) :=
    ⟨show some 'c' ≠ some '/' by decide, show some 'c' ≠ some '*' by decide⟩
  have hshed := hended.shed_append (hfollows.joins _)
  rw [shed_of_isCode (State.isCode_run hcode)] at hshed
  exact hshed

/-- Comments make no difference for a source that declares each constant it mentions in code, where
its name is first mentioned. -/
theorem metadata_stripComments
    (h : ∀ name ∈ constantNames,
      (∃ quote body, OneLine quote body ∧ DeclaresInCode source name quote body) ∨
        (¬ name.toList <:+: source ∧ ¬ name.toList <:+: stripComments source)) :
    metadata (stripComments source) = metadata source := by
  have hvalue : ∀ name ∈ constantNames, ∀ default,
      constantValue (stripComments source) name default = constantValue source name default := by
    intro name hname default
    rcases h name hname with ⟨quote, body, hbody, hdeclares⟩ | ⟨hsource, hstripped⟩
    · rw [constantValue_of_declares hname hbody (hdeclares.stripped hname hbody),
        constantValue_of_declares hname hbody hdeclares.declares]
    · rw [constantValue_eq, constantValue_eq, firstConstant?_of_unmentioned hsource,
        firstConstant?_of_unmentioned hstripped]
  unfold metadata
  rw [hvalue _ (by decide), hvalue _ (by decide), hvalue _ (by decide)]

/-- A constant in a comment is read before the one that is declared. -/
theorem metadata_in_comment :
    (metadata "// const layoutId = \"old\";\nconst layoutId = \"new\";".toList).identifier = "old" ∧
      (metadata (stripComments
        "// const layoutId = \"old\";\nconst layoutId = \"new\";".toList)).identifier = "new" := by
  decide +kernel

/-- So is a constant in a string. -/
theorem metadata_in_string :
    (metadata "const help = \"const layoutId = 'old'\"; const layoutId = 'new';".toList).identifier
      = "old" := by
  decide +kernel

end SlideContract.Layout
