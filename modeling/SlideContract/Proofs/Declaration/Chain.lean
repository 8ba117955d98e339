import SlideContract.Proofs.Declaration.Single

/-!
# Declared chains

A constant that declares a chain of calls is collected with the calls of trailing methods behind its
constructor, up to the first call of another method. Comments in the argument lists of the chain and
behind it change nothing about that.

* `Declarable`: the chains that a constant can declare;
* `table_chain`: the text that is kept of a declared chain;
* `table_stripComments`: the table of such a source is that of the source without comments;
* `table_ne_stripComments`: a comment between two calls cuts a declaration off.
-/

namespace SlideContract
open Scan Text

/-- The call without the comments in its argument list. -/
def Call.stripped (call : Call) : Call := { call with args := call.args.map stripComments }

lemma Call.trails_stripped (call : Call) : call.stripped.trails = call.trails := by
  unfold Call.trails Call.isCalled Call.stripped
  rw [Option.isSome_map]

lemma Call.isCalled_stripped (call : Call) : call.stripped.isCalled = call.isCalled :=
  Option.isSome_map

namespace Chain

variable {text part : List Char} {call : Call} {calls : List Call}

/-- A part with a commented argument list, and the part without the comments. -/
lemma SpellsPart.stripComments (h : SpellsPart Commented part call) :
    Commented part ∧ SpellsPart Balanced (Scan.stripComments part) call.stripped ∧
      (Scan.stripComments part).getLast? = part.getLast? := by
  -- a comment can stand in the argument list alone
  have hnames : ∀ {lead name gap : List Char}, Blanks lead → IsIdentifier name → Blanks gap →
      ∀ c ∈ lead ++ (name ++ gap), IsStill c := by
    intro lead name gap hlead hname hgap c hc
    apply isStill_of_not_mem_marks
    rcases List.mem_append.1 hc with hc | hc
    · exact hlead.not_mem_marks c hc
    · exact (List.mem_append.1 hc).elim (not_mem_marks_of_isIdentifier hname c)
        (hgap.not_mem_marks c)
  cases h with
  | @bare lead name hlead hname =>
    have hbalanced := Balanced.of_still (hnames hlead hname blanks_nil)
    rw [List.append_nil] at hbalanced
    rw [stripComments_of_plain hbalanced.plain]
    exact ⟨hbalanced.commented, .bare hlead hname, rfl⟩
  | @called lead name gap args hlead hname hgap hargs =>
    have hparen : closer? '(' = some ')' := rfl
    have hcommented := (hargs.bracket hparen).still (hnames hlead hname hgap)
    have hstrip := stripComments_still (hnames hlead hname hgap) ('(' :: (args ++ [')']))
    rw [hargs.stripComments_bracket hparen] at hstrip
    have hclosed :
        ∀ args, (lead ++ (name ++ (gap ++ '(' :: (args ++ [')'])))).getLast? = some ')' := by
      intro args
      rw [← List.cons_append, ← List.append_assoc gap, ← List.append_assoc name,
        ← List.append_assoc lead, List.getLast?_concat]
    simp only [List.append_assoc] at hcommented hstrip
    rw [hstrip, hclosed, hclosed]
    exact ⟨hcommented, .called hlead hname hgap hargs.balanced, rfl⟩

/-- Parts with commented argument lists, and the parts without the comments. -/
lemma SpellsRest.stripComments (h : SpellsRest Commented text calls) :
    Commented text ∧ SpellsRest Balanced (Scan.stripComments text) (calls.map Call.stripped) ∧
      (Scan.stripComments text).getLast? = text.getLast? := by
  have hcons : ∀ {c : Char} (text : List Char), IsStill c →
      Scan.stripComments (c :: text) = c :: Scan.stripComments text :=
    fun text hc => shed_cons_still hc text
  -- by the spelling: blanks and dots are kept, and each part is left without its own comments
  induction h with
  | nil =>
    rw [stripComments_of_plain (show Plain {} [] from trivial)]
    exact ⟨Balanced.nil.commented, .nil, rfl⟩
  | @blank c text calls hc _ ih =>
    obtain ⟨hcommented, hspells, hlast⟩ := ih
    have hstill := isStill_of_isBlank hc
    rw [hcons text hstill, List.getLast?_cons, List.getLast?_cons, hlast]
    exact ⟨hcommented.cons hstill, .blank hc hspells, rfl⟩
  | @part part text call calls hpart hrest ih =>
    obtain ⟨hcommented, hspells, hlast⟩ := ih
    obtain ⟨hcommentedPart, hspellsPart, hlastPart⟩ := hpart.stripComments
    have hdot : IsStill '.' := ⟨rfl, by decide⟩
    rw [hcons _ hdot, hcommentedPart.stripComments_append (hrest.follows.joins _),
      List.getLast?_cons, List.getLast?_cons, List.getLast?_append, List.getLast?_append, hlast,
      hlastPart]
    exact ⟨(hcommentedPart.append hcommented hrest.follows).cons hdot, .part hspellsPart hspells,
      rfl⟩

/-- A bare part is its name behind blanks. -/
lemma exists_of_bare {P : List Char → Prop} {name : String} (h : SpellsPart P part ⟨name, none⟩) :
    ∃ lead, part = lead ++ name.toList ∧ Blanks lead ∧ IsIdentifier name.toList := by
  generalize hcall : (⟨name, none⟩ : Call) = call at h
  cases h with
  | @bare lead name' hlead hname =>
    obtain ⟨rfl, -⟩ := Call.mk.inj hcall
    rw [String.toList_ofList]
    exact ⟨lead, rfl, hlead, hname⟩
  | called => exact absurd hcall (by simp)

end Chain

namespace Declaration
open Chain

variable {P : List Char → Prop} {stem text front args kept lost ending : List Char}
  {constructor : Call} {modifiers trailing others : List Call}

/-! ## Declarable chains -/

/-- A chain of calls on the builder namespace that a constant can declare: in its code no semicolon
and no line break between its calls cuts it off, no blanks stand at its ends, and nothing else is
declared. -/
structure Declarable (P : List Char → Prop) (text : List Char) (constructor : Call)
    (modifiers : List Call) : Prop where
  spells : Spells P text (⟨"z", none⟩ :: constructor :: modifiers)
  called : ∀ call ∈ constructor :: modifiers, call.isCalled = true
  starts : Starts text
  stops : Stops text
  unended : Unended (stripComments text)
  unbroken : ∀ before behind,
    stripComments text = before ++ '\n' :: behind → State.run {} before ≠ {}
  undeclared : Undeclared (stripComments text)

/-- A chain is declarable if no semicolon, no line break and no letter that the keyword begins with
stands in its code. -/
lemma Declarable.of_quiet (hspells : Spells P text (⟨"z", none⟩ :: constructor :: modifiers))
    (hcalled : ∀ call ∈ constructor :: modifiers, call.isCalled = true) (hstarts : Starts text)
    (hstops : Stops text) (hquiet : ∀ c ∈ stripComments text, c ≠ ';' ∧ c ≠ '\n' ∧ c ≠ 'c') :
    Declarable P text constructor modifiers where
  spells := hspells
  called := hcalled
  starts := hstarts
  stops := hstops
  unended before behind heq := absurd rfl (hquiet ';' (by rw [heq]; simp)).1
  unbroken before behind heq := absurd rfl (hquiet '\n' (by rw [heq]; simp)).2.1
  undeclared := by
    intro before behind heq hne _
    cases behind with
    | nil => exact absurd rfl hne
    | cons c rest => exact afterKeyword?_of_ne (hquiet c (by rw [heq]; simp)).2.2 rest

/-- The parts of a declared chain: what stands before the argument list of its constructor, that
list, the trailing calls behind it, and the calls from the first one of another method on. -/
structure Parts (front args kept lost : List Char) (trailing others : List Call) : Prop where
  isFront : ∀ c ∈ front, IsFront c
  builds : Builds front
  commented : Commented args
  unended : Unended (stripComments args)
  spellsKept : SpellsRest Commented kept trailing
  spellsLost : SpellsRest Commented lost others
  trails : ∀ call ∈ trailing, call.trails = true
  called : ∀ call ∈ others, call.isCalled = true
  cut : ∀ call ∈ others.head?, call.trails = false
  keptClosed : ∀ c ∈ kept.getLast?, c = ')'
  lostClosed : ∀ c ∈ lost.getLast?, c = ')'
  undeclared : Undeclared (stripComments (applied front args (kept ++ lost)))

/-- A constructor with a commented argument list and commented calls behind it. -/
lemma commented_applied (hfront : ∀ c ∈ front, IsFront c) (hargs : Commented args)
    (htext : SpellsRest Commented text others) :
    Commented (applied front args text) ∧
      stripComments (applied front args text)
        = applied front (stripComments args) (stripComments text) := by
  have hparen : closer? '(' = some ')' := rfl
  have hstill : ∀ c ∈ front, IsStill c := fun c hc => (hfront c hc).isStill
  have hbracket := hargs.bracket hparen
  have hsplit :
      ∀ args text, applied front args text = front ++ (('(' :: (args ++ [')'])) ++ text) := by
    intro args text
    simp [applied]
  rw [hsplit, hsplit, stripComments_still hstill,
    hbracket.stripComments_append (htext.follows.joins _), hargs.stripComments_bracket hparen]
  exact ⟨(hbracket.append htext.stripComments.1 htext.follows).still hstill, rfl⟩

/-- Without their comments the parts of a declared chain are such parts again. -/
lemma Parts.stripComments (h : Parts front args kept lost trailing others) :
    Parts front (Scan.stripComments args) (Scan.stripComments kept) (Scan.stripComments lost)
      (trailing.map Call.stripped) (others.map Call.stripped) := by
  obtain ⟨hkept, hspellsKept, hkeptLast⟩ := h.spellsKept.stripComments
  obtain ⟨-, hspellsLost, hlostLast⟩ := h.spellsLost.stripComments
  have hmore := h.spellsKept.append h.spellsLost
  obtain ⟨hcommented, hstrip⟩ := commented_applied h.isFront h.commented hmore
  -- removing comments twice is removing them once, so what held without comments holds of the new
  -- parts
  have hundeclared := h.undeclared
  rw [← stripComments_stripComments, hstrip,
    hkept.stripComments_append (h.spellsLost.follows.joins _)] at hundeclared
  exact
    { isFront := h.isFront
      builds := h.builds
      commented := h.commented.balanced.commented
      unended := by
        rw [stripComments_stripComments]
        exact h.unended
      spellsKept := hspellsKept.mono fun _ hargs => hargs.commented
      spellsLost := hspellsLost.mono fun _ hargs => hargs.commented
      trails := by
        simpa only [List.forall_mem_map, Call.trails_stripped] using h.trails
      called := by
        simpa only [List.forall_mem_map, Call.isCalled_stripped] using h.called
      cut := by
        intro call hcall
        rw [List.head?_map] at hcall
        obtain ⟨call', hcall', rfl⟩ := Option.map_eq_some_iff.1 hcall
        rw [Call.trails_stripped]
        exact h.cut call' hcall'
      keptClosed := by
        rw [hkeptLast]
        exact h.keptClosed
      lostClosed := by
        rw [hlostLast]
        exact h.lostClosed
      undeclared := hundeclared }

/-- A chain of the namespace and a constructor begins with the namespace, the name of the
constructor and its arguments; with any calls behind these it is a chain again. -/
lemma exists_front (h : Spells P text (⟨"z", none⟩ :: constructor :: modifiers))
    (hcalled : constructor.isCalled = true) (hstarts : Starts text) :
    ∃ front args more, text = applied front args more ∧
      (∀ c ∈ front, isNameChar c = true ∨ c = '.' ∨ isBlank c = true) ∧ Builds front ∧ P args ∧
      SpellsRest P more modifiers ∧
      ∀ kept others, SpellsRest P kept others →
        Spells P (applied front args kept) (⟨"z", none⟩ :: constructor :: others) := by
  cases h with
  | @chain part rest _ _ hpart hrest =>
    obtain ⟨blanks, called, more, rfl, hblanks, hcall, hmore⟩ := hrest.exists_part
    obtain ⟨lead, rfl, hlead, hname⟩ := exists_of_bare hpart
    cases hcall with
    | bare hlead' hname' => exact absurd hcalled (by simp [Call.isCalled])
    | @called lead' name' gap args hlead' hname' hgap hargs =>
      -- the namespace comes first, since no blank does
      have hnil : lead = [] := by
        cases lead with
        | nil => rfl
        | cons c cs =>
          have hc := hstarts c rfl
          rw [hlead c List.mem_cons_self] at hc
          exact absurd hc (by decide)
      subst hnil
      have hz : "z".toList = ['z'] := rfl
      set front := 'z' :: (blanks ++ '.' :: (lead' ++ (name' ++ gap))) with hfront
      have hsplit : ∀ kept, "z".toList ++ (blanks ++ '.' ::
          ((lead' ++ (name' ++ (gap ++ '(' :: (args ++ [')'])))) ++ kept))
            = applied front args kept := by
        intro kept
        rw [hfront, hz, applied]
        simp
      rw [List.nil_append, hsplit]
      refine ⟨front, args, more, rfl, ?_, ⟨_, hfront, ?_⟩, hargs, hmore, ?_⟩
      · intro c hc
        simp only [hfront, List.mem_cons, List.mem_append] at hc
        rcases hc with rfl | hc | rfl | hc | hc | hc
        · exact Or.inl (isNameChar_of_isNameStart (by decide))
        · exact Or.inr (Or.inr (hblanks c hc))
        · exact Or.inr (Or.inl rfl)
        · exact Or.inr (Or.inr (hlead' c hc))
        · exact Or.inl (hname'.isNameChar c hc)
        · exact Or.inr (Or.inr (hgap c hc))
      · rw [dropBlanks_append hblanks]
        rfl
      · intro kept others hkept
        rw [← hsplit kept, ← List.nil_append "z".toList]
        exact .chain (.bare blanks_nil hname) ((SpellsRest.of_blanks hblanks).append
          (.part (.called hlead' hname' hgap hargs) hkept))

/-- Names, dots and blanks leave the scan as it is. -/
lemma isStill_of_chars {c : Char} (h : isNameChar c = true ∨ c = '.' ∨ isBlank c = true) :
    IsStill c := by
  rcases h with hname | rfl | hblank
  · exact isStill_of_not_mem_marks (not_mem_marks_of_isNameChar hname)
  · exact ⟨rfl, by decide⟩
  · exact isStill_of_isBlank hblank

/-- In front of the arguments of a declarable chain no line breaks, since the scan is on the level
there. -/
lemma Declarable.isFront (h : Declarable P (applied front args text) constructor modifiers)
    (hchars : ∀ c ∈ front, isNameChar c = true ∨ c = '.' ∨ isBlank c = true) :
    ∀ c ∈ front, IsFront c := by
  intro c hc
  refine (hchars c hc).imp_right (Or.imp_right fun hblank => ⟨hblank, ?_⟩)
  rintro rfl
  obtain ⟨before, behind, rfl⟩ := List.append_of_mem hc
  have hbefore : ∀ d ∈ before, IsStill d := fun d hd =>
    isStill_of_chars (hchars d (List.mem_append_left _ hd))
  refine h.unbroken before (stripComments (behind ++ '(' :: (args ++ ')' :: text))) ?_
    (Balanced.of_still hbefore).final
  rw [applied, List.append_assoc, List.cons_append, stripComments_still hbefore]
  exact congrArg _ (shed_cons_still (isStill_of_chars (hchars _ (by simp))) _)

/-- No semicolon in the arguments of a declarable chain cuts it off. -/
lemma Declarable.unended_args (h : Declarable P (applied front args text) constructor modifiers)
    (hfront : ∀ c ∈ front, IsFront c)
    (hstrip : stripComments (applied front args text)
      = applied front (stripComments args) (stripComments text)) :
    Unended (stripComments args) := by
  have hstill : ∀ c ∈ front, IsStill c := fun c hc => (hfront c hc).isStill
  intro before behind hend hcode
  refine h.unended (front ++ '(' :: before) (behind ++ ')' :: stripComments text) ?_ ?_
  · rw [hstrip, hend, applied]
    simp
  · -- inside the parenthesis the scan is where it is in the arguments alone, one level higher
    rw [State.run_append, (Balanced.of_still hstill).final, State.run_cons,
      ← State.raise_empty (bracket_states (show closer? '(' = some ')' from rfl)).1,
      State.run_raise]
    exact hcode

/-- The parts of a declarable chain. -/
lemma Declarable.exists_parts (h : Declarable P text constructor modifiers)
    (hP : ∀ args, P args → Commented args) :
    ∃ front args kept lost, text = applied front args (kept ++ lost) ∧
      Parts front args kept lost (modifiers.takeWhile Call.trails)
        (modifiers.dropWhile Call.trails) ∧
      SpellsRest P lost (modifiers.dropWhile Call.trails) ∧
      Spells P (applied front args kept)
        (⟨"z", none⟩ :: constructor :: modifiers.takeWhile Call.trails) := by
  have hmodifiers : ∀ call ∈ modifiers, call.isCalled = true := fun call hcall =>
    h.called call (List.mem_cons_of_mem _ hcall)
  obtain ⟨front, args, more, rfl, hchars, hbuilds, hargs, hmore, hspells⟩ :=
    exists_front h.spells (h.called constructor List.mem_cons_self) h.starts
  -- the calls behind the constructor part where the first one stands that does not trail
  obtain ⟨kept, lost, rfl, hkept, hlost, hkeptClosed⟩ := exists_kept hmore hmodifiers
  have hfront := h.isFront hchars
  obtain ⟨-, hstrip⟩ := commented_applied hfront (hP _ hargs)
    ((hkept.append hlost).mono hP)
  have hcalled : ∀ call ∈ modifiers.dropWhile Call.trails, call.isCalled = true :=
    fun call hcall => hmodifiers call (List.dropWhile_subset _ hcall)
  refine ⟨front, args, kept, lost, rfl, ?_, hlost, hspells kept _ hkept⟩
  exact
    { isFront := hfront
      builds := hbuilds
      commented := hP _ hargs
      unended := h.unended_args hfront hstrip
      spellsKept := hkept.mono hP
      spellsLost := hlost.mono hP
      trails := fun call hcall => List.mem_takeWhile_imp hcall
      called := hcalled
      cut := by
        intro call hcall
        have hhead := List.head?_dropWhile_not Call.trails modifiers
        rw [Option.mem_def.1 hcall] at hhead
        exact hhead
      keptClosed := hkeptClosed
      lostClosed := by
        refine hlost.getLast?_called hcalled fun c hc => h.stops c ?_
        rw [← applied_append front args kept lost, List.getLast?_append, Option.mem_def.1 hc]
        rfl
      undeclared := h.undeclared }

/-! ## The table -/

/-- The chain is the only declaration of its source. -/
lemma Parts.single (h : Parts front args kept lost trailing others)
    (hending : ∀ c ∈ Scan.stripComments ending, c = ';' ∨ isBlank c = true) :
    Single (applied front args (kept ++ lost)) ending := by
  obtain ⟨hkept, -, hkeptLast⟩ := h.spellsKept.stripComments
  obtain ⟨-, -, hlostLast⟩ := h.spellsLost.stripComments
  obtain ⟨hcommented, hstrip⟩ :=
    commented_applied h.isFront h.commented (h.spellsKept.append h.spellsLost)
  refine ⟨hcommented, h.undeclared, h.builds.append _, ?_, hending⟩
  rw [hstrip, hkept.stripComments_append (h.spellsLost.follows.joins _)]
  apply getLast?_applied
  intro c hc
  rw [List.getLast?_append, hlostLast, hkeptLast] at hc
  cases hlast : lost.getLast? with
  | none =>
    rw [hlast] at hc
    exact h.keptClosed c hc
  | some d =>
    rw [hlast] at hc
    rw [← Option.some.inj (show some d = some c from hc)]
    exact h.lostClosed d hlast

/-- The table holds the chain with its trailing calls. -/
theorem Parts.table_eq {maxDepth : ℤ} (h : Parts front args kept lost trailing others)
    (hstem : ∀ c ∈ stem, isNameChar c = true)
    (hending : ∀ c ∈ Scan.stripComments ending, c = ';' ∨ isBlank c = true) :
    table { maxDepth := maxDepth } (opening stem ++ (applied front args (kept ++ lost) ++ ending))
      = { result := .ok [(String.ofList (stem ++ "Schema".toList),
            Scan.stripComments (applied front args kept))]
          events := [.collected [String.ofList (stem ++ "Schema".toList)]] } := by
  have hstarts : Starts front ∧ front ≠ [] := by
    obtain ⟨chain, rfl, -⟩ := h.builds
    exact ⟨starts_cons (by decide) chain, by simp⟩
  have hrest := trailingCall?_dropped h.spellsLost (fun _ hargs => hargs) h.called h.cut
    (ends_of_stripComments hending)
  have hspan := span?_called h.isFront hstarts.1 hstarts.2
    (fun more => (h.builds.append more).afterNamespaceDot?) h.commented h.unended h.spellsKept
    (fun _ hargs => hargs) h.trails h.keptClosed hrest
  rw [← List.append_assoc, ← applied_append] at hspan
  exact table_single (h.single hending) hstem hspan

/-- The text that is kept of a declared chain ends where the first call stands that is not of a
trailing method. -/
theorem table_chain {maxDepth : ℤ} (h : Declarable P text constructor modifiers)
    (hP : ∀ args, P args → Commented args) (hstem : ∀ c ∈ stem, isNameChar c = true)
    (hending : ∀ c ∈ stripComments ending, c = ';' ∨ isBlank c = true) :
    ∃ kept lost, text = kept ++ lost ∧
      Spells P kept (⟨"z", none⟩ :: constructor :: modifiers.takeWhile Call.trails) ∧
      SpellsRest P lost (modifiers.dropWhile Call.trails) ∧
      table { maxDepth := maxDepth } (opening stem ++ (text ++ ending))
        = { result := .ok [(String.ofList (stem ++ "Schema".toList), stripComments kept)]
            events := [.collected [String.ofList (stem ++ "Schema".toList)]] } := by
  obtain ⟨front, args, kept, lost, rfl, hparts, hlost, hkept⟩ := h.exists_parts hP
  exact ⟨applied front args kept, lost, (applied_append front args kept lost).symm, hkept, hlost,
    hparts.table_eq hstem hending⟩

/-- Comments in the argument lists of a declared chain and behind it do not change what is
collected. -/
theorem table_stripComments {maxDepth : ℤ} (h : Declarable Commented text constructor modifiers)
    (hstem : ∀ c ∈ stem, isNameChar c = true)
    (hending : ∀ c ∈ stripComments ending, c = ';' ∨ isBlank c = true) :
    table { maxDepth := maxDepth } (stripComments (opening stem ++ (text ++ ending)))
      = table { maxDepth := maxDepth } (opening stem ++ (text ++ ending)) := by
  obtain ⟨front, args, kept, lost, rfl, hparts, -, -⟩ := h.exists_parts fun _ hargs => hargs
  obtain ⟨hkept, -, -⟩ := hparts.spellsKept.stripComments
  -- the source without comments is made of the same parts, which have lost theirs
  have hsource := (hparts.single hending).shed_source hstem
  have hstrip := (commented_applied hparts.isFront hparts.commented
    (hparts.spellsKept.append hparts.spellsLost)).2
  have hstripKept := (commented_applied hparts.isFront hparts.commented hparts.spellsKept).2
  rw [hkept.stripComments_append (hparts.spellsLost.follows.joins _)] at hstrip
  have hending' : ∀ c ∈ stripComments (stripComments ending), c = ';' ∨ isBlank c = true := by
    rw [stripComments_stripComments]
    exact hending
  rw [hparts.table_eq hstem hending, show stripComments _ = _ from hsource, hstrip,
    hparts.stripComments.table_eq hstem hending', ← hstripKept, stripComments_stripComments]

/-- A chain with a comment in an argument list. -/
def annotated : List Char := "z.string(/* short */).min(1)".toList

/-- The chain with a comment in an argument list is declarable. -/
lemma declarable_annotated :
    Declarable Commented annotated ⟨"string", some "/* short */".toList⟩ [⟨"min", some ['1']⟩] := by
  have hnames : IsIdentifier ['z'] ∧ IsIdentifier "string".toList ∧ IsIdentifier "min".toList :=
    ⟨isIdentifier_of_letters (by decide), isIdentifier_of_letters (by decide),
      isIdentifier_of_letters (by decide)⟩
  have hslash : '/' ∉ " short ".toList := by decide
  have hshort : Commented "/* short */".toList :=
    (@commented_block " short ".toList fun hmark => hslash (hmark.subset (by simp))).1
  have hone : Commented ['1'] := by
    refine (Balanced.of_still fun c hc => isStill_of_not_mem_marks ?_).commented
    rw [List.mem_singleton.1 hc]
    decide
  have hstrip : stripComments annotated = "z.string().min(1)".toList := by decide +kernel
  refine Declarable.of_quiet ?_ (by decide) ?_ ?_ ?_
  · exact .chain (.bare blanks_nil hnames.1)
      (.part (.called blanks_nil hnames.2.1 blanks_nil hshort)
      (.part (.called blanks_nil hnames.2.2 blanks_nil hone) .nil))
  · exact starts_cons (by decide) _
  · exact stops_of_getLast? rfl (by decide)
  · rw [hstrip]
    intro c hc
    have hquiet := List.all_eq_true.1 (show "z.string().min(1)".toList.all
      (fun c => c ≠ ';' && c ≠ '\n' && c ≠ 'c') = true by decide) c hc
    simpa [and_assoc] using hquiet

/-- That comment and one behind the declaration change nothing. -/
theorem table_stripComments_annotated :
    table {} (stripComments (opening ['X'] ++ (annotated ++ "; // always\n".toList)))
      = table {} (opening ['X'] ++ (annotated ++ "; // always\n".toList)) := by
  have hstill : ∀ c ∈ [';', ' '], IsStill c := by
    intro c hc
    simp only [List.mem_cons, List.not_mem_nil, or_false] at hc
    rcases hc with rfl | rfl
    · exact ⟨rfl, by decide⟩
    · exact ⟨rfl, by decide⟩
  have hending : stripComments "; // always\n".toList = [';', ' ', '\n'] := by
    have hline := (@commented_line " always".toList (by decide)).2
    exact (stripComments_still hstill _).trans (congrArg ([';', ' '] ++ ·) hline)
  refine @table_stripComments ['X'] annotated _ _ _ 32 declarable_annotated ?_ ?_
  · intro c hc
    rw [List.mem_singleton.1 hc]
    exact isNameChar_of_isNameStart (isNameStart_of_isAlpha (by decide))
  · rw [hending]
    intro c hc
    have hblank := List.all_eq_true.1
      (show [';', ' ', '\n'].all (fun c => c = ';' || isBlank c) = true by decide) c hc
    simpa using hblank

/-- A chain with a comment between its calls. -/
def interrupted : List Char := "z.string() // not empty\n.min(1)".toList

/-- Between two calls a comment cuts a declaration off, which goes on where the comment is gone. -/
theorem table_ne_stripComments :
    (table {} (opening ['X'] ++ (interrupted ++ [';']))).result.toOption
      = some [("XSchema", "z.string()".toList)] ∧
    (table {} (stripComments (opening ['X'] ++ (interrupted ++ [';'])))).result.toOption
      = some [("XSchema", "z.string() \n.min(1)".toList)] :=
  ⟨by decide +kernel, by decide +kernel⟩

end Declaration
end SlideContract
