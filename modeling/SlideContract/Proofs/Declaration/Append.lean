import SlideContract.Proofs.Declaration.Single
import SlideContract.Proofs.Entries
import SlideContract.Proofs.Scan.Semicolon
import SlideContract.Proofs.Settings

/-!
# Tables of sources one after the other

A source that ends in code with its brackets paired can be followed, behind a semicolon and a line
break, by any other: the declarations of the two are found as in each of them alone. The table of
the whole is that of the first source overridden by that of the second one.

* `heads_append`, `codeHeads_append`: the heads and the code of the whole;
* `declared_append`, `malformed_append`: what is declared, and what cannot be read;
* `table_append`: the tables.
-/

namespace SlideContract

/-- An event of a source that comes some lines later. -/
def Event.later (lines : ℕ) : Event → Event
  | .malformed name line => .malformed name (lines + line)
  | event => event

namespace Declaration
open Scan Text Chain

variable {settings : Settings} {text first second : List Char} {before : Option Char} {head : Head}

/-! ## Heads -/

lemma afterKeyword?_semicolon {keyword : String} (h : ';' ∉ keyword.toList)
    (text more : List Char) :
    afterKeyword? keyword (text ++ ';' :: more)
      = (afterKeyword? keyword text).map (· ++ ';' :: more) := by
  unfold afterKeyword?
  rw [after?_append_cons h]
  cases after? keyword.toList text with
  | none => rfl
  | some rest =>
    simp only [Option.map_some, Option.bind_eq_bind, Option.bind_some,
      dropBlanks_append_cons (show isBlank ';' = false by decide)]
    cases rest with
    | nil => rfl
    | cons c rest =>
      rw [List.cons_append, List.head?_cons, List.head?_cons]
      split <;> rfl

lemma afterEquals?_semicolon {namespaceName : List Char} (h : ';' ∉ namespaceName)
    (text more : List Char) :
    afterEquals? namespaceName (text ++ ';' :: more)
      = (afterEquals? namespaceName text).map (· ++ ';' :: more) := by
  unfold afterEquals?
  have hblank : isBlank ';' = false := by decide
  rw [dropBlanks_append_cons hblank]
  cases dropBlanks text with
  | nil => rfl
  | cons c rest =>
    by_cases hc : c = '='
    · subst hc
      simp only [List.cons_append, head?_append_cons (show '=' ≠ ';' by decide),
        dropBlanks_append_cons hblank, afterNamespaceDot?_semicolon h, Option.isSome_map]
      split
      · rfl
      · split <;> rfl
    · simp [hc]

/-- The head of a constant lies in front of a semicolon. -/
lemma tableForm_semicolon (h : settings.Named) (before : Option Char) (text more : List Char) :
    tableForm settings before (text ++ ';' :: more) = tableForm settings before text := by
  unfold tableForm
  rw [afterKeyword?_semicolon (by decide)]
  split
  · rfl
  · cases afterKeyword? "const" text with
    | none => rfl
    | some rest =>
      have hrun := (@List.takeWhile_prefix _ rest isNameChar).length_le
      -- the stem is looked for in a run of name characters, which the semicolon ends
      have hsemicolon : isNameChar ';' = false := isNameChar_of_isSeparator (by decide)
      simp only [Option.map_some, Option.bind_eq_bind, Option.bind_some,
        takeWhile_append_cons hsemicolon]
      apply findSome?_congr
      intro stem hstem
      rw [List.mem_reverse, List.mem_range] at hstem
      rw [List.drop_append_of_le_length (by omega), after?_append_cons h.semicolon.1]
      cases hafter : after? settings.nameSuffix.toList (rest.drop stem) with
      | none => rfl
      | some behind =>
        have hlength := congrArg List.length (after?_eq_some_iff.1 hafter)
        rw [List.length_drop, List.length_append] at hlength
        simp only [Option.map_some, Option.bind_some, afterEquals?_semicolon h.semicolon.2]
        cases afterEquals? settings.builderNamespace.toList behind with
        | none => rfl
        | some left =>
          simp only [Option.map_some, Option.bind_some, List.length_append]
          rw [List.take_append_of_le_length (by omega), Nat.add_sub_add_right]

/-- What stands in front of what follows an equals sign. -/
lemma exists_of_afterEquals? {namespaceName left : List Char}
    (h : afterEquals? namespaceName text = some left) :
    ∃ blanks gap, Blanks blanks ∧ Blanks gap ∧ text = blanks ++ '=' :: (gap ++ left) := by
  unfold afterEquals? at h
  split at h
  · rename_i rest hequals
    simp only at h
    split at h
    · exact absurd h (by simp)
    · split at h
      · obtain ⟨blanks, hblanks, hsplit⟩ := exists_blanks text
        obtain ⟨gap, hgap, hrest⟩ := exists_blanks rest
        refine ⟨blanks, gap, hblanks, hgap, ?_⟩
        rw [← Option.some.inj h, ← hrest, ← hequals, ← hsplit]
      · exact absurd h (by simp)
  · exact absurd h (by simp)

/-- A head is made of characters that leave the scan as it is. -/
lemma exists_of_tableForm (h : settings.Named) {name : List Char} {n : ℕ}
    (hform : tableForm settings before text = some (name, n)) :
    ∃ c front left, text = c :: (front ++ left) ∧ n = front.length + 1 ∧
      ∀ d ∈ front, IsStill d := by
  unfold tableForm at hform
  split at hform
  · exact absurd hform (by simp)
  · simp only [Option.bind_eq_bind, Option.bind_eq_some_iff] at hform
    obtain ⟨rest, hkeyword, hform⟩ := hform
    obtain ⟨stem, hstem, hform⟩ := List.exists_of_findSome?_eq_some hform
    simp only [Option.bind_eq_some_iff] at hform
    obtain ⟨behind, hsuffix, left, hequals, heq⟩ := hform
    rw [List.mem_reverse, List.mem_range] at hstem
    obtain ⟨blanks, hblanks, rfl⟩ := exists_of_afterKeyword? hkeyword
    obtain ⟨space, gap, hspace, hgap, rfl⟩ := exists_of_afterEquals? hequals
    have hrest : rest = rest.take stem
        ++ (settings.nameSuffix.toList ++ (space ++ '=' :: (gap ++ left))) := by
      rw [← after?_eq_some_iff.1 hsuffix, List.take_append_drop]
    -- the stem lies inside the longest run of name characters
    have hname : ∀ c ∈ rest.take stem, isNameChar c = true := by
      have hfront : rest.take stem <+: rest.takeWhile isNameChar :=
        List.prefix_of_prefix_length_le (List.take_prefix _ _) (List.takeWhile_prefix _)
          (by rw [List.length_take]; omega)
      exact fun c hc => List.mem_takeWhile_imp (hfront.subset hc)
    set front := "onst".toList ++ (blanks ++ (rest.take stem ++ (settings.nameSuffix.toList
      ++ (space ++ '=' :: gap)))) with hfront
    have hsplit : "const".toList ++ (blanks ++ rest) = 'c' :: (front ++ left) := by
      conv_lhs => rw [hrest]
      simp [hfront]
    refine ⟨'c', front, left, hsplit, ?_, ?_⟩
    · have hn : ("const".toList ++ (blanks ++ rest)).length - left.length = n :=
        congrArg Prod.snd (Option.some.inj heq)
      rw [← hn, hsplit, List.length_cons, List.length_append]
      omega
    · have hconst : ∀ c ∈ "onst".toList, c ∉ marks := List.all_iff_forall_prop.1 (by decide)
      intro c hc
      apply isStill_of_not_mem_marks
      simp only [hfront, List.mem_append, List.mem_cons] at hc
      -- the front is keyword, blanks, stem, suffix, blanks, `=` and blanks, and none holds a mark
      rcases hc with hc | hc | hc | hc | hc | rfl | hc
      · exact hconst c hc
      · exact not_mem_marks_of_isBlank (hblanks c hc)
      · exact not_mem_marks_of_isNameChar (hname c hc)
      · exact Settings.not_mem_marks_of_isIdentifier h.suffix c hc
      · exact not_mem_marks_of_isBlank (hspace c hc)
      · decide
      · exact not_mem_marks_of_isBlank (hgap c hc)

/-- A head as many characters later. -/
def Head.later (offset : ℕ) (head : Head) : Head := { head with start := offset + head.start }

section HeadsFrom

variable {form : Option Char → List Char → Option (List Char × ℕ)}

/-- Where a text begins moves its heads and nothing else. -/
lemma headsFrom_later (before : Option Char) (offset index skip : ℕ) (text : List Char) :
    headsFrom form before (offset + index) skip text
      = (headsFrom form before index skip text).map (·.later offset) := by
  induction text generalizing before index skip with
  | nil => rfl
  | cons c rest ih =>
    rw [headsFrom, headsFrom]
    split
    · rw [Nat.add_assoc, ih]
    · split
      · rw [List.map_cons, Nat.add_assoc, ih]
        rfl
      · rw [Nat.add_assoc, ih]

/-- The heads of a form that no text runs on with over a semicolon. -/
lemma headsFrom_semicolon
    (hform : ∀ before text more, form before (text ++ ';' :: more) = form before text)
    (hlength : ∀ before text name n, form before text = some (name, n) → 0 < n ∧ n ≤ text.length)
    (before : Option Char) (index skip : ℕ) (text more : List Char) (hskip : skip ≤ text.length) :
    headsFrom form before index skip (text ++ ';' :: more)
      = headsFrom form before index skip text
        ++ headsFrom form (some ';') (index + text.length + 1) 0 more := by
  -- along the text: a head lies within it, so no more is skipped than is left in front of the
  -- semicolon
  induction text generalizing before index skip with
  | nil =>
    obtain rfl := Nat.le_zero.1 hskip
    have hnone : form before ([] ++ ';' :: more) = none := by
      rw [hform, Option.eq_none_iff_forall_ne_some]
      rintro ⟨name, n⟩ hsome
      have hle := hlength _ _ _ _ hsome
      rw [List.length_nil] at hle
      omega
    have hskipped : headsFrom form before index 0 ([] ++ ';' :: more)
        = headsFrom form (some ';') (index + 1) 0 more := by
      rw [List.nil_append] at hnone ⊢
      rw [headsFrom, if_neg (Nat.lt_irrefl 0), hnone]
    rw [hskipped, List.length_nil, Nat.add_zero]
    rfl
  | cons c rest ih =>
    have hindex : index + (c :: rest).length + 1 = index + 1 + rest.length + 1 := by
      rw [List.length_cons]
      omega
    rw [List.cons_append, headsFrom, headsFrom, ← List.cons_append, hform, hindex]
    split
    · exact ih _ _ _ (by rw [List.length_cons] at hskip; omega)
    · split
      · rename_i name n hsome
        have hle := hlength _ _ _ _ hsome
        rw [List.length_cons] at hle
        rw [ih _ _ _ (by omega), List.cons_append]
      · exact ih _ _ _ (Nat.zero_le _)

end HeadsFrom

lemma length_of_tableForm (h : settings.Named) {name : List Char} {n : ℕ}
    (hform : tableForm settings before text = some (name, n)) : 0 < n ∧ n ≤ text.length := by
  obtain ⟨c, front, left, rfl, rfl, -⟩ := exists_of_tableForm h hform
  rw [List.length_cons, List.length_append]
  omega

/-- The heads of two sources with a semicolon and a line break between them. -/
theorem heads_append (h : settings.Named) (first second : List Char) :
    heads (tableForm settings) (first ++ ';' :: '\n' :: second)
      = heads (tableForm settings) first
        ++ (heads (tableForm settings) second).map (·.later (first.length + 2)) := by
  -- a line break begins no keyword and ends no word, so the second begins as a text of its own
  have hbreak : ∀ index, headsFrom (tableForm settings) (some ';') index 0 ('\n' :: second)
      = headsFrom (tableForm settings) none (index + 1) 0 second := by
    intro index
    have hnone : tableForm settings (some ';') ('\n' :: second) = none := by
      rw [Option.eq_none_iff_forall_ne_some]
      intro found hfound
      have hconst := afterKeyword?_of_tableForm (Option.isSome_of_eq_some hfound)
      rw [afterKeyword?_of_ne (by decide)] at hconst
      exact absurd hconst (by decide)
    have hstart : ∀ text, tableForm settings (some '\n') text = tableForm settings none text := by
      intro text
      have hword : atWordStart (some '\n') = true := by decide
      unfold tableForm
      rw [hword]
      rfl
    rw [headsFrom, if_neg (Nat.lt_irrefl 0), hnone]
    cases second with
    | nil => rfl
    | cons c rest => simp only [headsFrom, hstart]
  unfold heads
  rw [headsFrom_semicolon (tableForm_semicolon h) (fun _ _ _ _ => length_of_tableForm h) _ _ _ _ _
    (Nat.zero_le _), hbreak, ← headsFrom_later]
  have hindex : 0 + first.length + 1 + 1 = first.length + 2 + 0 := by omega
  rw [hindex]

/-! ## Heads in code -/

/-- The heads of a source that start in code. -/
def codeHeads (settings : Settings) (source : List Char) : List Head :=
  (heads (tableForm settings) source).filter fun head => (codeOffsets source).contains head.start

/-- The code of two sources, with the semicolon and the line break between them. -/
lemma mem_codeOffsets_append (hends : EndsInCode first) (second : List Char) (n : ℕ) :
    n ∈ codeOffsets (first ++ ';' :: '\n' :: second) ↔
      n ∈ codeOffsets first ∨ n = first.length ∨ n = first.length + 1 ∨
        ∃ m ∈ codeOffsets second, first.length + 2 + m = n := by
  have hbreak : IsStill '\n' := ⟨rfl, by decide⟩
  have hshift : ∀ m, first.length + 1 + (1 + m) = first.length + 2 + m := by omega
  rw [hends.codeOffsets_semicolon, hbreak.codeOffsets]
  simp only [List.map_cons, List.map_map, List.mem_append, List.mem_cons, List.mem_map,
    Function.comp_apply, Nat.add_zero, hshift]

/-- The heads in code of two sources. -/
lemma codeHeads_append (h : settings.Named) (hends : EndsInCode first) (second : List Char) :
    codeHeads settings (first ++ ';' :: '\n' :: second)
      = codeHeads settings first
        ++ (codeHeads settings second).map (·.later (first.length + 2)) := by
  -- a place in code of both sources lies in the first, at the semicolon or the line break, or in
  -- the second
  have hcode := mem_codeOffsets_append hends second
  unfold codeHeads
  rw [heads_append h, List.filter_append, List.filter_map]
  congr 1
  · apply List.filter_congr
    intro head hhead
    obtain ⟨front, c, rest, rfl, hstart, -⟩ := mem_headsFrom hhead
    rw [Bool.eq_iff_iff, List.contains_iff_mem, List.contains_iff_mem, hcode]
    simp only [List.length_append, List.length_cons]
    constructor
    · rintro (hmem | hplace | hplace | ⟨m, -, hplace⟩)
      · exact hmem
      all_goals omega
    · exact Or.inl
  · congr 1
    apply List.filter_congr
    intro head hhead
    show (codeOffsets _).contains (first.length + 2 + head.start) = _
    rw [Bool.eq_iff_iff, List.contains_iff_mem, List.contains_iff_mem, hcode]
    constructor
    · rintro (hmem | hplace | hplace | ⟨m, hm, hplace⟩)
      · obtain ⟨v, hv, hindex⟩ := List.mem_map.1 hmem
        have hlt := (index_of_mem_visits (List.mem_filter.1 hv).1).2
        omega
      · omega
      · omega
      · obtain rfl : m = head.start := by omega
        exact hm
    · exact fun hmem => Or.inr (Or.inr (Or.inr ⟨_, hmem, rfl⟩))

/-! ## Declarations -/

/-- The span of the declaration of a head. -/
def spanOf? (settings : Settings) (source : List Char) (head : Head) : Option (List Char) :=
  span? settings.builderNamespace.toList (source.drop head.stop)

/-- Behind a head in code a text with paired brackets still ends in code, with its brackets
closed. -/
lemma rest_of_mem_codeHeads (h : settings.Named) (hrest : Rest text)
    (hhead : head ∈ codeHeads settings text) :
    head.stop ≤ text.length ∧ Rest (text.drop head.stop) := by
  obtain ⟨hmem, hcode⟩ := List.mem_filter.1 hhead
  obtain ⟨before, c, behind, hsplit, hstart, -, last, hform⟩ := mem_headsFrom hmem
  -- the head is in code and holds no mark, so the text behind it is scanned as before
  obtain ⟨d, front, left, hleft, hlength, hstill⟩ := exists_of_tableForm h hform
  obtain ⟨rfl, rfl⟩ := List.cons.inj hleft
  obtain ⟨v, hv, hindex⟩ := List.mem_map.1 (List.contains_iff_mem.1 hcode)
  obtain ⟨hvisit, hout⟩ := List.mem_filter.1 hv
  have hbehind := hrest.drop hvisit hout
  rw [hindex] at hbehind
  have hdrop : ∀ n, text.drop (head.start + 1 + n) = (front ++ left).drop n := by
    intro n
    have hplace : head.start + 1 + n = (before ++ [c]).length + n := by
      rw [hstart, List.length_append, List.length_singleton, Nat.zero_add]
    rw [hplace, ← List.drop_drop, hsplit,
      show before ++ c :: (front ++ left) = (before ++ [c]) ++ (front ++ left) by simp,
      List.drop_left]
  have hstop : head.stop = head.start + 1 + front.length := by
    unfold Head.stop
    omega
  have hfront := hdrop 0
  rw [Nat.add_zero, List.drop_zero] at hfront
  rw [hstop, hdrop, List.drop_left]
  refine ⟨?_, .of_still hstill (hfront ▸ hbehind)⟩
  rw [hsplit, hstart]
  simp only [List.length_append, List.length_cons]
  omega

lemma spanOf?_first (h : settings.Named) (hrest : Rest first)
    (hhead : head ∈ codeHeads settings first) (more : List Char) :
    spanOf? settings (first ++ ';' :: more) head = spanOf? settings first head := by
  obtain ⟨hle, hbehind⟩ := rest_of_mem_codeHeads h hrest hhead
  unfold spanOf?
  rw [List.drop_append_of_le_length hle, span?_semicolon h.semicolon.2 hbehind]

lemma drop_second (first second : List Char) (n : ℕ) :
    (first ++ ';' :: '\n' :: second).drop (first.length + 2 + n) = second.drop n := by
  rw [Nat.add_assoc, ← List.drop_drop, List.drop_left, Nat.add_comm 2]
  rfl

lemma spanOf?_second (first second : List Char) (head : Head) :
    spanOf? settings (first ++ ';' :: '\n' :: second) (head.later (first.length + 2))
      = spanOf? settings second head := by
  unfold spanOf? Head.stop Head.later
  rw [Nat.add_assoc, drop_second]

/-- What a head declares. -/
def declared? (settings : Settings) (source : List Char) (head : Head) :
    Option (String × List Char) :=
  (spanOf? settings source head).map fun span => (String.ofList head.name, stripComments span)

/-- What is said of a head whose declaration cannot be read. -/
def malformed? (settings : Settings) (source : List Char) (head : Head) : Option Event :=
  if (spanOf? settings source head).isSome then none
  else some (.malformed (String.ofList head.name) (lineBreaks (source.take head.start) + 1))

section Noted

variable {α : Type} {noted : Event → Option α}
  (hredeclared : ∀ name, noted (.redeclared name) = none)
  (hcollected : ∀ names, noted (.collected names) = none)

include hredeclared

/-- A head sets its name to what it declares, or it is noted that this cannot be read. -/
lemma collect_eq (table : Table) (head : Head) :
    (collect settings text table head).result
        = .ok ((declared? settings text head).elim table fun d => Entries.set d.1 d.2 table) ∧
      (collect settings text table head).events.filterMap noted
        = (malformed? settings text head).toList.filterMap noted := by
  have hspan : span? settings.builderNamespace.toList (text.drop head.stop)
      = spanOf? settings text head := rfl
  unfold collect declared? malformed?
  simp only [hspan]
  cases spanOf? settings text head with
  | none => exact ⟨rfl, rfl⟩
  | some span =>
    -- that a name is declared again is recorded, but it is no notice of what cannot be read
    by_cases hhas : Entries.has (String.ofList head.name) table = true
    · simp only [if_pos hhas]
      refine ⟨rfl, ?_⟩
      show [Event.redeclared _].filterMap noted = [].filterMap noted
      rw [List.filterMap_cons, hredeclared]
    · simp only [if_neg hhas]
      exact ⟨rfl, rfl⟩

lemma foldlM_collect_eq (found : List Head) (start : Table) :
    (found.foldlM (collect settings text) start).result
        = .ok ((found.filterMap (declared? settings text)).foldl
          (fun table pair => Entries.set pair.1 pair.2 table) start) ∧
      (found.foldlM (collect settings text) start).events.filterMap noted
        = (found.filterMap (malformed? settings text)).filterMap noted := by
  induction found generalizing start with
  | nil => exact ⟨rfl, rfl⟩
  | cons head found ih =>
    obtain ⟨hresult, hevents⟩ := @collect_eq settings text _ _ hredeclared start head
    obtain ⟨hlast, hmore⟩ := ih ((declared? settings text head).elim start
      fun d => Entries.set d.1 d.2 start)
    rw [List.foldlM_cons, Run.bind_of_ok hresult, hlast, List.filterMap_append, hevents, hmore,
      ← List.filterMap_append]
    refine ⟨?_, ?_⟩
    · cases hdeclared : declared? settings text head <;> simp [hdeclared]
    · cases hmalformed : malformed? settings text head <;> simp [hmalformed]

include hcollected

/-- The table is what setting all that the heads declare leaves, and what is noted, of names that
are redeclared and of the names in the end aside, is what the heads do not declare. -/
lemma table_eq (settings : Settings) (source : List Char) :
    (table settings source).result
        = .ok (Entries.ofPairs
            ((codeHeads settings source).filterMap (declared? settings source))) ∧
      (table settings source).events.filterMap noted
        = ((codeHeads settings source).filterMap (malformed? settings source)).filterMap noted := by
  obtain ⟨hresult, hevents⟩ :=
    @foldlM_collect_eq settings source _ _ hredeclared (codeHeads settings source) []
  have hheads : (heads (tableForm settings) source).filter
      (fun head => (codeOffsets source).contains head.start) = codeHeads settings source := rfl
  unfold table
  simp only
  rw [hheads, Run.bind_of_ok hresult, List.filterMap_append, hevents]
  refine ⟨rfl, ?_⟩
  show _ ++ [Event.collected _].filterMap noted = _
  rw [List.filterMap_cons, hcollected, List.filterMap_nil, List.append_nil]

end Noted

/-! ## Two sources -/

section Two

variable (h : settings.Named) (hrest : Rest first)

include h hrest

lemma declared_append (second : List Char) :
    (codeHeads settings (first ++ ';' :: '\n' :: second)).filterMap
        (declared? settings (first ++ ';' :: '\n' :: second))
      = (codeHeads settings first).filterMap (declared? settings first)
        ++ (codeHeads settings second).filterMap (declared? settings second) := by
  rw [codeHeads_append h hrest.ends, List.filterMap_append, List.filterMap_map]
  congr 1
  · apply List.filterMap_congr
    intro head hhead
    unfold declared?
    rw [spanOf?_first h hrest hhead]
  · apply List.filterMap_congr
    intro head _
    show (spanOf? settings _ (head.later (first.length + 2))).map _ = _
    rw [spanOf?_second]
    rfl

lemma malformed_append (second : List Char) :
    (codeHeads settings (first ++ ';' :: '\n' :: second)).filterMap
        (malformed? settings (first ++ ';' :: '\n' :: second))
      = (codeHeads settings first).filterMap (malformed? settings first)
        ++ ((codeHeads settings second).filterMap (malformed? settings second)).map
          (Event.later (lineBreaks first + 1)) := by
  rw [codeHeads_append h hrest.ends, List.filterMap_append, List.filterMap_map, List.map_filterMap]
  congr 1
  · apply List.filterMap_congr
    intro head hhead
    have hstart : head.start ≤ first.length :=
      (Nat.le_add_right _ _).trans (rest_of_mem_codeHeads h hrest hhead).1
    unfold malformed?
    rw [spanOf?_first h hrest hhead, List.take_append_of_le_length hstart]
  · apply List.filterMap_congr
    intro head _
    have htake : (first ++ ';' :: '\n' :: second).take (first.length + 2 + head.start)
        = first ++ ';' :: '\n' :: second.take head.start := by
      rw [Nat.add_assoc, List.take_length_add_append, Nat.add_comm 2]
      rfl
    -- in front of a head in the second stand the lines of the first, and the line break behind
    -- the semicolon
    have hlines : lineBreaks (first ++ ';' :: '\n' :: second.take head.start) + 1
        = lineBreaks first + 1 + (lineBreaks (second.take head.start) + 1) := by
      unfold lineBreaks
      rw [List.count_append, List.count_cons, List.count_cons]
      simp
      omega
    show (if (spanOf? settings _ (head.later (first.length + 2))).isSome then none
      else some (Event.malformed _ (lineBreaks (List.take (first.length + 2 + head.start) _) + 1)))
      = _
    unfold malformed?
    rw [spanOf?_second, htake, hlines]
    split <;> rfl

end Two

/-- The declarations of a source that ends in code with its brackets paired, and those of any other
behind a semicolon and a line break: the names of the first source keep their places and take the
texts that the second one has for them, its other names come behind, and the declarations that
cannot be read are those of the first source and those of the second one on their later lines. -/
theorem table_append (hnamed : settings.Named) (hends : EndsInCode first) (hpaired : Paired first)
    (second : List Char) :
    ∃ table₁ table₂, (table settings first).result = .ok table₁ ∧
      (table settings second).result = .ok table₂ ∧
      (table settings (first ++ ";\n".toList ++ second)).result
        = .ok (Entries.overriddenBy table₁ table₂) ∧
      diagnosticsOf (table settings (first ++ ";\n".toList ++ second)).events
        = diagnosticsOf (table settings first).events
          ++ diagnosticsOf ((table settings second).events.map
            (Event.later (lineBreaks first + 1))) := by
  have hrest : Rest first := ⟨hends, [], hpaired⟩
  have hjoined : first ++ ";\n".toList ++ second = first ++ ';' :: '\n' :: second := by simp
  -- no note of the names leaves a diagnostic, also on later lines
  have hlater : ∀ source : List Char,
      diagnosticsOf ((table settings source).events.map (Event.later (lineBreaks first + 1)))
        = diagnosticsOf (((codeHeads settings source).filterMap (malformed? settings source)).map
          (Event.later (lineBreaks first + 1))) := by
    intro source
    unfold diagnosticsOf
    rw [List.filterMap_map, List.filterMap_map]
    exact (table_eq (fun _ => rfl) (fun _ => rfl) settings source).2
  have hdiagnostics : ∀ source : List Char,
      diagnosticsOf (table settings source).events
        = diagnosticsOf ((codeHeads settings source).filterMap (malformed? settings source)) :=
    fun source => (table_eq (fun _ => rfl) (fun _ => rfl) settings source).2
  have hresult : ∀ source : List Char, (table settings source).result = .ok (Entries.ofPairs
      ((codeHeads settings source).filterMap (declared? settings source))) :=
    fun source => (@table_eq _ Event.diagnostic? (fun _ => rfl) (fun _ => rfl) settings source).1
  refine ⟨_, _, hresult first, hresult second, ?_, ?_⟩
  · rw [hjoined, hresult, declared_append hnamed hrest, Entries.ofPairs_append]
  · rw [hjoined, hdiagnostics, hdiagnostics, hlater, malformed_append hnamed hrest]
    exact List.filterMap_append

/-- A source that breaks off in a declaration, before one that declares a name of it anew and breaks
off as well. -/
theorem table_append_broken :
    (table {} ("const ASchema = z.string();\nconst BSchema = z.object".toList ++ ";\n".toList
        ++ "const CSchema = z.array\nconst ASchema = z.number()".toList)).result
        = .ok [("ASchema", "z.number()".toList)] ∧
      diagnosticsOf (table {} ("const ASchema = z.string();\nconst BSchema = z.object".toList
        ++ ";\n".toList ++ "const CSchema = z.array\nconst ASchema = z.number()".toList)).events
        = [⟨.extractionFailure, "Could not find the end of BSchema (line 2)", some "BSchema"⟩,
          ⟨.extractionFailure, "Could not find the end of CSchema (line 3)", some "CSchema"⟩] := by
  obtain ⟨table₁, table₂, h₁, h₂, hresult, hevents⟩ := @table_append {}
    "const ASchema = z.string();\nconst BSchema = z.object".toList
    ⟨by decide +kernel, by decide +kernel⟩ (by decide +kernel) (by decide +kernel)
    "const CSchema = z.array\nconst ASchema = z.number()".toList
  have hfirst : (table {} "const ASchema = z.string();\nconst BSchema = z.object".toList).result
      = .ok [("ASchema", "z.string()".toList)] := by decide +kernel
  have hsecond : (table {} "const CSchema = z.array\nconst ASchema = z.number()".toList).result
      = .ok [("ASchema", "z.number()".toList)] := by decide +kernel
  obtain rfl := Except.ok.inj (h₁.symm.trans hfirst)
  obtain rfl := Except.ok.inj (h₂.symm.trans hsecond)
  rw [hresult, hevents]
  exact ⟨rfl, by decide +kernel⟩

end Declaration
end SlideContract
