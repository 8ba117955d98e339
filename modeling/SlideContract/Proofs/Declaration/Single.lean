import Mathlib.Data.Int.Notation
import SlideContract.Declaration.Entry
import SlideContract.Proofs.Run
import SlideContract.Proofs.Chain.Tame
import SlideContract.Proofs.Scan.Span

/-!
# Sources with a single declaration

A source such as `const Schema = z.…`, with blanks and semicolons behind it, has one declaration,
however much like declarations the contents of its strings look.

* `mem_headsFrom`: where the heads of a source stand;
* `heads_single`: the only head in code is the first one;
* `table_single`, `entry?_single`: the table of such a source, and its entry point.
-/

namespace SlideContract.Declaration
open Scan Text Chain

/-! ## Heads -/

variable {form : Option Char → List Char → Option (List Char × ℕ)}

/-- A head stands behind what is skipped, where the form recognizes one. -/
lemma mem_headsFrom {before : Option Char} {index skip : ℕ} {text : List Char} {head : Head}
    (h : head ∈ headsFrom form before index skip text) :
    ∃ front c rest, text = front ++ c :: rest ∧ head.start = index + front.length ∧
      skip ≤ front.length ∧ ∃ last, form last (c :: rest) = some (head.name, head.length) := by
  induction text generalizing before index skip with
  | nil => exact absurd h List.not_mem_nil
  | cons c rest ih =>
    -- a head that is found from the next character on
    have hlater :
        ∀ {skip'}, skip ≤ skip' + 1 → head ∈ headsFrom form (some c) (index + 1) skip' rest →
        ∃ front d rest', c :: rest = front ++ d :: rest' ∧ head.start = index + front.length ∧
          skip ≤ front.length ∧ ∃ last, form last (d :: rest') = some (head.name, head.length) := by
      intro skip' hskip hmem
      obtain ⟨front, d, rest', rfl, hstart, hle, hform⟩ := ih hmem
      refine ⟨c :: front, d, rest', rfl, ?_, ?_, hform⟩
      · rw [hstart, List.length_cons]
        omega
      · rw [List.length_cons]
        omega
    unfold headsFrom at h
    split at h
    · exact hlater (by omega) h
    · rename_i hskip
      split at h
      · rename_i name length hform
        rcases List.mem_cons.1 h with rfl | h
        · exact ⟨[], c, rest, rfl, rfl, by simpa using hskip, before, hform⟩
        · exact hlater (by omega) h
      · exact hlater (by omega) h

/-- What stands in front of what follows a keyword. -/
lemma exists_of_afterKeyword? {keyword : String} {text rest : List Char}
    (h : afterKeyword? keyword text = some rest) :
    ∃ blanks, Blanks blanks ∧ text = keyword.toList ++ (blanks ++ rest) := by
  unfold afterKeyword? at h
  rw [Option.bind_eq_bind, Option.bind_eq_some_iff] at h
  obtain ⟨behind, hbehind, h⟩ := h
  split at h
  · obtain ⟨blanks, hblanks, hsplit⟩ := exists_blanks behind
    refine ⟨blanks, hblanks, ?_⟩
    rw [after?_eq_some_iff.1 hbehind, ← Option.some.inj h, ← hsplit]
  · exact absurd h (by simp)

/-- A constant is declared only where its keyword stands. -/
lemma afterKeyword?_of_tableForm {settings : Settings} {before : Option Char} {text : List Char}
    (h : (tableForm settings before text).isSome = true) :
    (afterKeyword? "const" text).isSome = true := by
  unfold tableForm at h
  split at h
  · exact absurd h (by decide)
  · cases hafter : afterKeyword? "const" text with
    | none =>
      rw [hafter] at h
      exact absurd h (show ¬ (none : Option (List Char × ℕ)).isSome = true by decide)
    | some rest => rfl

/-! ## The source -/

/-- What stands in front of the chain of a constant that is named `stem` with the suffix. -/
def opening (stem : List Char) : List Char := "const ".toList ++ (stem ++ "Schema = ".toList)

variable {stem text rest : List Char}

/-- The text begins with the builder namespace and a dot. -/
def Builds (text : List Char) : Prop :=
  ∃ more, text = 'z' :: more ∧ (dropBlanks more).head? = some '.'

lemma Builds.append (h : Builds text) (more : List Char) : Builds (text ++ more) := by
  obtain ⟨chain, rfl, hdot⟩ := h
  refine ⟨chain ++ more, rfl, ?_⟩
  have hsome : (dropBlanks chain).isEmpty = false := by
    cases hchain : dropBlanks chain with
    | nil =>
      rw [hchain] at hdot
      exact absurd hdot (by simp)
    | cons c cs => rfl
  unfold dropBlanks at hdot hsome ⊢
  rw [List.dropWhile_append, hsome]
  simp [hdot]

lemma Builds.afterNamespaceDot? (h : Builds text) :
    (afterNamespaceDot? "z".toList text).isSome = true := by
  obtain ⟨chain, rfl, hdot⟩ := h
  have hafter : after? "z".toList ('z' :: chain) = some chain := rfl
  unfold Scan.afterNamespaceDot?
  simp only [hafter, Option.bind_eq_bind, Option.bind_some]
  cases hchain : dropBlanks chain with
  | nil =>
    rw [hchain] at hdot
    exact absurd hdot (by simp)
  | cons c cs =>
    rw [hchain, List.head?_cons, Option.some.injEq] at hdot
    rw [hdot]
    rfl

/-- Of the numbers below a bound, tried from above, the first that succeeds. -/
lemma findSome?_reverse_range {β : Type} {f : ℕ → Option β} {k n : ℕ} {found : β} (hk : k < n)
    (hlater : ∀ j, k < j → j < n → f j = none) (hfound : f k = some found) :
    (List.range n).reverse.findSome? f = some found := by
  induction n with
  | zero => exact absurd hk (Nat.not_lt_zero k)
  | succ n ih =>
    rw [List.range_succ, List.reverse_append, List.reverse_singleton, List.singleton_append,
      List.findSome?_cons]
    rcases Nat.lt_succ_iff_lt_or_eq.1 hk with hlt | rfl
    · rw [hlater n hlt (Nat.lt_succ_self n)]
      exact ih hlt fun j hj hjn => hlater j hj (Nat.lt_succ_of_lt hjn)
    · rw [hfound]

/-- What stands between the name of a constant and its chain. -/
def equalsMark : List Char := " = ".toList

lemma isNameChar_suffix : ∀ c ∈ "Schema".toList, isNameChar c = true :=
  IsIdentifier.isNameChar (isIdentifier_of_letters (by decide))

lemma isNameChar_name (hstem : ∀ c ∈ stem, isNameChar c = true) :
    ∀ c ∈ stem ++ "Schema".toList, isNameChar c = true := fun c hc =>
  (List.mem_append.1 hc).elim (hstem c) (isNameChar_suffix c)

/-- A name runs up to the equals sign behind it. -/
lemma takeWhile_name {name : List Char} (h : ∀ c ∈ name, isNameChar c = true) (chain : List Char) :
    (name ++ (equalsMark ++ chain)).takeWhile isNameChar = name := by
  have hblank : isNameChar ' ' = false := isNameChar_of_isSeparator (by decide)
  have hmark : equalsMark ++ chain = ' ' :: ('=' :: ' ' :: chain) := rfl
  rw [List.takeWhile_append_of_pos h, hmark, List.takeWhile_cons, hblank]
  exact List.append_nil name

/-- The suffix does not stand in the last characters of a name, which are too few. -/
lemma after?_suffix (hstem : ∀ c ∈ stem, isNameChar c = true) {j : ℕ} (hj : stem.length < j)
    (hend : j ≤ (stem ++ "Schema".toList).length) (chain : List Char) :
    after? "Schema".toList ((stem ++ "Schema".toList ++ (equalsMark ++ chain)).drop j) = none := by
  rw [Option.eq_none_iff_forall_ne_some]
  intro behind hbehind
  have hsplit := after?_eq_some_iff.1 hbehind
  rw [List.drop_append_of_le_length hend] at hsplit
  rw [List.length_append] at hend
  have hname : ∀ c ∈ (stem ++ "Schema".toList).drop j, isNameChar c = true :=
    fun c hc => isNameChar_name hstem c (List.mem_of_mem_drop hc)
  -- the name runs on for fewer characters than the suffix has
  have hlength := congrArg (fun text => (text.takeWhile isNameChar).length) hsplit
  simp only [takeWhile_name hname chain, List.takeWhile_append_of_pos isNameChar_suffix,
    List.length_append, List.length_drop] at hlength
  omega

/-- Behind the keyword of the opening stands the name. -/
lemma afterKeyword?_opening (hstem : ∀ c ∈ stem, isNameChar c = true) (chain : List Char) :
    afterKeyword? "const" (opening stem ++ chain)
      = some (stem ++ "Schema".toList ++ (equalsMark ++ chain)) := by
  have hsource : opening stem ++ chain
      = "const".toList ++ (' ' :: (stem ++ "Schema".toList ++ (equalsMark ++ chain))) := by
    unfold opening equalsMark
    simp
  have hstarts : Starts (stem ++ "Schema".toList ++ (equalsMark ++ chain)) := by
    refine Starts.append ?_ (by simp) _
    intro c hc
    exact isBlank_of_isNameChar (isNameChar_name hstem c (List.mem_of_mem_head? hc))
  have hblank : isBlank ' ' = true := rfl
  unfold afterKeyword?
  rw [hsource, after?_eq_some_iff.2 rfl]
  simp only [Option.bind_eq_bind, Option.bind_some, List.head?_cons, Option.any_some, hblank,
    if_true]
  rw [dropBlanks_cons hblank, dropBlanks_of_starts hstarts]

/-- Behind the equals sign stands the chain. -/
lemma afterEquals?_equalsMark (htext : Builds text) :
    afterEquals? "z".toList (equalsMark ++ text) = some text := by
  have hnamespace := htext.afterNamespaceDot?
  obtain ⟨more, rfl, -⟩ := htext
  have hspaces : dropBlanks (equalsMark ++ 'z' :: more) = '=' :: ' ' :: 'z' :: more := rfl
  have hchain : dropBlanks (' ' :: 'z' :: more) = 'z' :: more := rfl
  unfold afterEquals?
  simp only [hspaces, List.head?_cons, hchain, hnamespace, if_true]
  rfl

/-- The head at the beginning of the source. -/
lemma tableForm_opening {maxDepth : ℤ} (hstem : ∀ c ∈ stem, isNameChar c = true)
    (htext : Builds text) (rest : List Char) :
    tableForm { maxDepth := maxDepth } none (opening stem ++ (text ++ rest))
      = some (stem ++ "Schema".toList, (opening stem).length) := by
  have hequals := afterEquals?_equalsMark (htext.append rest)
  set chain := text ++ rest with hchain
  -- of all places in the name, the suffix stands only behind the stem
  have hsuffix : after? "Schema".toList
      ((stem ++ "Schema".toList ++ (equalsMark ++ chain)).drop stem.length)
      = some (equalsMark ++ chain) := by
    rw [after?_eq_some_iff, List.append_assoc, List.drop_left]
  have hlength : (opening stem ++ chain).length - chain.length = (opening stem).length := by
    rw [List.length_append]
    omega
  have hstart : atWordStart none = true := rfl
  unfold tableForm
  simp only [hstart, afterKeyword?_opening hstem, Bool.not_true, Option.bind_eq_bind,
    Option.bind_some, takeWhile_name (isNameChar_name hstem)]
  rw [if_neg Bool.false_ne_true, @findSome?_reverse_range _ _ stem.length]
  · rw [List.length_append]
    omega
  · intro j hj hend
    rw [after?_suffix hstem hj (Nat.le_of_lt_succ hend)]
    rfl
  · rw [hsuffix, Option.bind_some, hequals, Option.bind_some, hlength, ← List.length_append,
      List.append_assoc stem, ← List.append_assoc stem, List.take_left]
    rfl

/-- In the code of the text no constant is declared. -/
def Undeclared (text : List Char) : Prop :=
  ∀ before behind, text = before ++ behind → behind ≠ [] → (State.run {} before).quote = none →
    afterKeyword? "const" behind = none

lemma undeclared_of_tame (h : Tame text) : Undeclared text := by
  intro before behind htext hne hcode
  have hquiet := (h.quiet before behind [] htext hne hcode stopper_nil).noConst
  rwa [List.append_nil] at hquiet

lemma unended_of_tame (h : Tame text) : Unended text := by
  intro before behind htext hcode
  exact (h.quiet before (';' :: behind) [] htext (by simp) hcode stopper_nil).semicolon rfl

/-- No constant is declared where a text that ends with a parenthesis runs on into more. -/
lemma afterKeyword?_append {front behind more : List Char} (hundeclared : Undeclared text)
    (hlast : text.getLast? = some ')') (htext : text = front ++ behind) (hne : behind ≠ [])
    (hcode : (State.run {} front).quote = none) :
    afterKeyword? "const" (behind ++ more) = none := by
  have hquiet := hundeclared front behind htext hne hcode
  -- the parenthesis stands between any keyword in the text and what runs on behind it
  have hclose : ')' ∈ behind := by
    rw [htext, List.getLast?_append, List.getLast?_eq_some_getLast hne] at hlast
    rw [← Option.some.inj (show some (behind.getLast hne) = some ')' from hlast)]
    exact List.getLast_mem hne
  unfold afterKeyword? at hquiet ⊢
  cases hafter : after? "const".toList (behind ++ more) with
  | none => rfl
  | some rest =>
    have hsplit := after?_eq_some_iff.1 hafter
    cases rest with
    | nil => rfl
    | cons c rest =>
      by_cases hblank : isBlank c = true
      · -- the keyword and its blank lie in front of the parenthesis
        have hsplit' : behind ++ more = ("const".toList ++ [c]) ++ rest := by
          rw [hsplit, List.append_assoc]
          rfl
        exfalso
        rcases List.append_eq_append_iff.1 hsplit' with ⟨middle, heq, -⟩ | ⟨middle, heq, -⟩
        · have hmem : ')' ∈ "const".toList ++ [c] := by
            rw [heq]
            exact List.mem_append_left _ hclose
          rcases List.mem_append.1 hmem with hmem | hmem
          · exact absurd hmem (by decide)
          · rw [← List.mem_singleton.1 hmem] at hblank
            exact absurd hblank (by decide)
        · have hfound : after? "const".toList behind = some (c :: middle) := by
            rw [after?_eq_some_iff, heq, List.append_assoc]
            rfl
          rw [hfound] at hquiet
          simp [hblank] at hquiet
      · show (if isBlank c = true then _ else none) = none
        rw [if_neg hblank]

lemma afterKeyword?_of_ne {c : Char} (h : c ≠ 'c') (more : List Char) :
    afterKeyword? "const" (c :: more) = none := by
  have hnone : after? "const".toList (c :: more) = none := by
    show (if 'c' = c then _ else none) = none
    rw [if_neg h.symm]
  unfold afterKeyword?
  rw [hnone]
  rfl

lemma afterKeyword?_end {c : Char} (h : c = ';' ∨ isBlank c = true) (more : List Char) :
    afterKeyword? "const" (c :: more) = none := by
  apply afterKeyword?_of_ne
  rintro rfl
  rcases h with h | h
  · exact absurd h (by decide)
  · exact absurd h (by decide)

/-- A keyword in code is there without the comments as well. -/
lemma afterKeyword?_shed {s : State} (hcode : s.IsCode)
    (h : (afterKeyword? "const" text).isSome = true) :
    (afterKeyword? "const" (shed s text)).isSome = true := by
  cases hafter : after? "const".toList text with
  | none =>
    unfold afterKeyword? at h
    rw [hafter] at h
    exact absurd h (show ¬ (none : Option (List Char)).isSome = true by decide)
  | some more =>
    obtain rfl := after?_eq_some_iff.1 hafter
    unfold afterKeyword? at h ⊢
    rw [hafter] at h
    cases more with
    | nil => exact absurd h (show ¬ (none : Option (List Char)).isSome = true by decide)
    | cons c more =>
      by_cases hblank : isBlank c = true
      · -- the keyword and its blank open no comment, so they are kept together
        have hstill : ∀ d ∈ "const".toList ++ [c], IsStill d := by
          intro d hd
          apply isStill_of_not_mem_marks
          rcases List.mem_append.1 hd with hd | hd
          · exact not_mem_marks_of_isNameChar
              (IsIdentifier.isNameChar (isIdentifier_of_letters (by decide)) d hd)
          · rw [List.mem_singleton.1 hd]
            exact not_mem_marks_of_isBlank hblank
        have hshed : shed s ("const".toList ++ c :: more) = "const".toList ++ c :: shed s more := by
          have hfront := shed_still hstill hcode more
          rwa [List.append_assoc, List.append_assoc] at hfront
        rw [hshed, after?_eq_some_iff.2 rfl]
        simp [hblank]
      · exact absurd h (by simp [hblank])

/-- A chain that is the only declaration of its source, in which and behind which comments may
stand. -/
structure Single (text rest : List Char) : Prop where
  commented : Commented text
  undeclared : Undeclared (stripComments text)
  builds : Builds text
  closed : (stripComments text).getLast? = some ')'
  rest : ∀ c ∈ stripComments rest, c = ';' ∨ isBlank c = true

lemma isStill_opening (hstem : ∀ c ∈ stem, isNameChar c = true) :
    ∀ c ∈ opening stem, IsStill c := by
  intro c hc
  apply isStill_of_not_mem_marks
  have hconst : ∀ c ∈ "const ".toList, c ∉ marks := List.all_iff_forall_prop.1 (by decide)
  have hequals : ∀ c ∈ "Schema = ".toList, c ∉ marks := List.all_iff_forall_prop.1 (by decide)
  rcases List.mem_append.1 hc with hc | hc
  · exact hconst c hc
  · exact (List.mem_append.1 hc).elim
      (fun hc => not_mem_marks_of_isNameChar (hstem c hc)) (hequals c)

lemma Builds.stripComments (h : Builds text) : Builds (stripComments text) := by
  obtain ⟨more, rfl, hdot⟩ := h
  obtain ⟨blanks, hblanks, hsplit⟩ := Chain.exists_blanks more
  obtain ⟨chain, hchain⟩ := List.head?_eq_some_iff.1 hdot
  have hstill : ∀ c ∈ 'z' :: (blanks ++ ['.']), IsStill c := by
    intro c hc
    simp only [List.mem_cons, List.mem_append, List.not_mem_nil, or_false] at hc
    rcases hc with rfl | hc | rfl
    · exact ⟨rfl, by decide⟩
    · exact isStill_of_isBlank (hblanks c hc)
    · exact ⟨rfl, by decide⟩
  have hsource : 'z' :: more = 'z' :: (blanks ++ ['.']) ++ chain := by
    rw [hsplit, hchain]
    simp
  refine ⟨blanks ++ ['.'] ++ Scan.stripComments chain, ?_, ?_⟩
  · rw [hsource, stripComments_still hstill, List.cons_append]
  · rw [List.append_assoc, dropBlanks_append hblanks]
    rfl

/-- The source without comments. -/
lemma Single.shed_source (h : Single text rest) (hstem : ∀ c ∈ stem, isNameChar c = true) :
    shed {} (opening stem ++ (text ++ rest))
      = opening stem ++ (stripComments text ++ stripComments rest) := by
  have hjoins : Joins (shed {} text) rest := by
    intro hlast
    rw [show shed {} text = stripComments text from rfl, h.closed] at hlast
    exact absurd hlast (by decide)
  have hfinal : State.run {} (shed {} text) = {} := h.commented.balanced.final
  rw [shed_still (isStill_opening hstem) State.isCode_empty,
    h.commented.ended.shed_append hjoins, hfinal]
  rfl

/-- Behind the opening no constant is declared in code. -/
lemma afterKeyword?_single (h : Single text rest) (hstem : ∀ c ∈ stem, isNameChar c = true)
    {before behind : List Char} {c : Char}
    (hsource : opening stem ++ (stripComments text ++ stripComments rest) = before ++ c :: behind)
    (hlength : (opening stem).length ≤ before.length) (hcode : (State.run {} before).quote = none) :
    afterKeyword? "const" (c :: behind) = none := by
  -- the keyword would stand in the text, in the rest, or where the text runs on into the rest
  rcases List.append_eq_append_iff.1 hsource with ⟨front, rfl, hrest⟩ | ⟨front, hopening, hrest⟩
  · have hrun : State.run {} (opening stem ++ front) = State.run {} front := by
      rw [State.run_append, (Balanced.of_still (isStill_opening hstem)).final]
    rw [hrun] at hcode
    rcases List.append_eq_append_iff.1 hrest with ⟨middle, rfl, hmore⟩ | ⟨middle, htext, hmore⟩
    · exact afterKeyword?_end (h.rest c (by rw [hmore]; simp)) behind
    · cases middle with
      | nil =>
        rw [List.nil_append] at hmore
        exact afterKeyword?_end (h.rest c (by rw [← hmore]; simp)) behind
      | cons d middle =>
        rw [hmore]
        exact afterKeyword?_append h.undeclared h.closed htext (by simp) hcode
  · have hfront : front = [] := by
      have hlengths := congrArg List.length hopening
      rw [List.length_append] at hlengths
      exact List.eq_nil_of_length_eq_zero (by omega)
    rw [hfront, List.nil_append] at hrest
    obtain ⟨more, hchain, -⟩ := h.builds.stripComments
    rw [hchain] at hrest
    rw [hrest]
    rfl

/-- The keyword of the opening stands in code. -/
lemma zero_mem_codeOffsets (stem chain : List Char) : 0 ∈ codeOffsets (opening stem ++ chain) := by
  have hcons : opening stem ++ chain = 'c' :: (opening stem ++ chain).tail := rfl
  have hvisits : walk (opening stem ++ chain)
      = visit {} 0 'c' :: visits {} 1 (opening stem ++ chain).tail := by
    unfold walk
    rw [hcons]
    exact visits_cons (fun _ => commentLength_eq_zero_iff.2 fun hc => absurd hc.1 (by decide)) 0
  unfold codeOffsets
  rw [hvisits]
  exact List.mem_cons_self

/-- No head that is found behind the opening stands in code. -/
lemma not_mem_codeOffsets_of_mem_headsFrom {maxDepth : ℤ} (h : Single text rest)
    (hstem : ∀ c ∈ stem, isNameChar c = true) {head : Head}
    (hhead : head ∈ headsFrom (tableForm { maxDepth := maxDepth }) (some 'c') 1
      ((opening stem).length - 1) (opening stem ++ (text ++ rest)).tail) :
    head.start ∉ codeOffsets (opening stem ++ (text ++ rest)) := by
  intro hcode
  have hshed := h.shed_source hstem
  have hcons : opening stem ++ (text ++ rest) = 'c' :: (opening stem ++ (text ++ rest)).tail := rfl
  obtain ⟨front, c, behind, htail, hstart, hskip, last, hform⟩ := mem_headsFrom hhead
  obtain ⟨before, d, after, hsplit, hlength, hquote, hcodeSource, hd⟩ :=
    exists_of_mem_codeOffsets hcode
  have hhere : opening stem ++ (text ++ rest) = ('c' :: front) ++ c :: behind := by
    rw [List.cons_append, ← htail]
    exact hcons
  have hinj : before = 'c' :: front ∧ d :: after = c :: behind := by
    apply List.append_inj
    · rw [← hsplit]
      exact hhere
    · rw [hlength, hstart, List.length_cons, Nat.add_comm]
  -- the keyword stands in the code as well, behind the opening
  have hconst := afterKeyword?_of_tableForm (Option.isSome_of_eq_some hform)
  have hkeyword := afterKeyword?_shed (State.isCode_run hquote) (hinj.2 ▸ hconst)
  obtain ⟨more, hmore⟩ := List.head?_eq_some_iff.1 hd
  rw [hcodeSource, hmore] at hshed
  have hbehind : (opening stem).length ≤ (shed {} before).length := by
    have hle : (opening stem).length ≤ before.length := by
      rw [hlength, hstart]
      omega
    obtain ⟨inner, rfl⟩ := List.prefix_of_prefix_length_le (List.prefix_append (opening stem) _)
      ⟨d :: after, hsplit.symm⟩ hle
    rw [shed_still (isStill_opening hstem) State.isCode_empty, List.length_append]
    exact Nat.le_add_right _ _
  have hnone := afterKeyword?_single h hstem hshed.symm hbehind hquote
  rw [hmore, hnone] at hkeyword
  exact absurd hkeyword (by decide)

/-- The only head in code is the first one. -/
theorem heads_single {maxDepth : ℤ} (h : Single text rest)
    (hstem : ∀ c ∈ stem, isNameChar c = true) :
    (heads (tableForm { maxDepth := maxDepth }) (opening stem ++ (text ++ rest))).filter
        (fun head => (codeOffsets (opening stem ++ (text ++ rest))).contains head.start)
      = [⟨0, (opening stem).length, stem ++ "Schema".toList⟩] := by
  have hcons : opening stem ++ (text ++ rest) = 'c' :: (opening stem ++ (text ++ rest)).tail := rfl
  have hheads : heads (tableForm { maxDepth := maxDepth }) (opening stem ++ (text ++ rest))
      = ⟨0, (opening stem).length, stem ++ "Schema".toList⟩ ::
        headsFrom (tableForm { maxDepth := maxDepth }) (some 'c') 1 ((opening stem).length - 1)
          (opening stem ++ (text ++ rest)).tail := by
    unfold heads
    rw [hcons, headsFrom, if_neg (Nat.lt_irrefl 0), ← hcons,
      tableForm_opening hstem h.builds rest]
  have hfirst := zero_mem_codeOffsets stem (text ++ rest)
  rw [hheads, List.filter_cons, if_pos (by simpa using hfirst), List.filter_eq_nil_iff.2]
  intro head hhead
  have hlater := not_mem_codeOffsets_of_mem_headsFrom h hstem hhead
  simpa using hlater

/-! ## The table -/

/-- The table of the source holds the span of the chain alone. -/
theorem table_single {maxDepth : ℤ} (h : Single text rest) (hstem : ∀ c ∈ stem, isNameChar c = true)
    {span : List Char} (hspan : span? "z".toList (text ++ rest) = some span) :
    table { maxDepth := maxDepth } (opening stem ++ (text ++ rest))
      = { result := .ok [(String.ofList (stem ++ "Schema".toList), stripComments span)]
          events := [.collected [String.ofList (stem ++ "Schema".toList)]] } := by
  have hdrop : (opening stem ++ (text ++ rest)).drop (opening stem).length = text ++ rest :=
    List.drop_left
  have hcollect : collect { maxDepth := maxDepth } (opening stem ++ (text ++ rest)) []
      ⟨0, (opening stem).length, stem ++ "Schema".toList⟩
        = pure [(String.ofList (stem ++ "Schema".toList), stripComments span)] := by
    unfold collect Head.stop
    simp only [Nat.zero_add, hdrop, hspan]
    rfl
  unfold table
  simp only [heads_single h hstem, List.foldlM_cons, List.foldlM_nil, hcollect]
  rfl

/-- The entry point is that declaration, if it has an entry name. -/
theorem entry?_single {settings : Settings} {name : String} (hname : name ∈ settings.entryNames)
    (text source : List Char) :
    entry? settings source [(name, text)] = pure (some ⟨name, text⟩) := by
  have hget :
      ∀ other, Entries.get? other [(name, text)] = if name = other then some text else none :=
    fun _ => rfl
  have hsome : (entryInTable? settings [(name, text)]).isSome = true := by
    unfold entryInTable?
    rw [List.findSome?_isSome_iff]
    exact ⟨name, hname, by rw [hget, if_pos rfl]; rfl⟩
  obtain ⟨e, he⟩ := Option.isSome_iff_exists.1 hsome
  obtain ⟨other, -, hother⟩ := List.exists_of_findSome?_eq_some he
  have hentry : e = ⟨name, text⟩ := by
    rw [hget] at hother
    split at hother
    · rename_i heq
      rw [← Option.some.inj hother, heq]
    · exact absurd hother (by simp)
  unfold entry?
  rw [he, hentry]

end SlideContract.Declaration
