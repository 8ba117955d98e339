import SlideContract.Proofs.Chain.Cut
import SlideContract.Proofs.Chain.Spelling

/-!
# Chains without defaults

What is left of a spelled chain when all defaults are cut out of it: the calls that set a default
are gone from behind the first part, and the argument lists of the others have lost the defaults in
them.

* `Passes`, `CutsAt`: texts without a default, and the first default of a text;
* `Spells.withoutDefaults`: what is left spells what is left of the calls;
* `cleared_cleared`: nothing more is lost the second time.
-/

namespace SlideContract

namespace Call

/-- The call sets a default. -/
def setsDefault (c : Call) : Bool := c.isCalled && c.name == "default"

/-- The call without the defaults in its argument list. -/
def cleared (c : Call) : Call := { c with args := c.args.map Chain.withoutDefaults }

@[simp] lemma cleared_name (c : Call) : c.cleared.name = c.name := rfl

@[simp] lemma isCalled_cleared (c : Call) : c.cleared.isCalled = c.isCalled := by
  simp [cleared, isCalled]

@[simp] lemma setsDefault_cleared (c : Call) : c.cleared.setsDefault = c.setsDefault := by
  simp [setsDefault]

end Call

namespace Chain
open Scan Text

/-- The calls behind the first part of a chain, without defaults. -/
def clearedRest (calls : List Call) : List Call :=
  (calls.filter fun call => !call.setsDefault).map Call.cleared

/-- The calls of a chain without defaults. The first part stands behind no dot and stays. -/
def cleared : List Call → List Call
  | [] => []
  | head :: rest => head.cleared :: clearedRest rest

variable {text part lead name gap tail : List Char} {call : Call} {calls more : List Call}

lemma clearedRest_append : clearedRest (calls ++ more) = clearedRest calls ++ clearedRest more := by
  unfold clearedRest
  rw [List.filter_append, List.map_append]

lemma cleared_append (h : calls ≠ []) :
    cleared (calls ++ more) = cleared calls ++ clearedRest more := by
  cases calls with
  | nil => exact absurd rfl h
  | cons head rest =>
    rw [List.cons_append, cleared, cleared, clearedRest_append, List.cons_append]

/-! ## Nested argument lists -/

/-- The argument list of the call is nested, if it is called. -/
def NestedArgs (call : Call) : Prop := ∀ args ∈ call.args, Nested args

lemma Spells.parse_eq (h : Spells Nested text calls) : parse text = some calls :=
  parse_of_spells (h.mono fun _ hargs => hargs.balanced)

/-- Parts do not go on with a name nor with an argument list, if what stands behind them does
not. -/
lemma SpellsRest.quits {P : List Char → Prop} {behind : List Char} (h : SpellsRest P text calls)
    (hbehind : Quits behind) : Quits (text ++ behind) := by
  induction h with
  | nil => exact hbehind
  | blank hc _ ih =>
    intro d hd
    rw [List.cons_append, dropBlanks_cons hc] at hd
    exact ih d hd
  | part _ _ _ => exact quits_dot _

lemma SpellsPart.nested (h : SpellsPart Nested part call) :
    Nested part ∧ part.getLast? ≠ some '/' := by
  have hends : ∀ {c : Char}, c ∉ marks → some c ≠ some '/' := by
    intro c hc heq
    exact ne_of_not_mem_marks hc (by decide) (Option.some.inj heq)
  cases h with
  | @bare lead name hlead hname =>
    have hmarks := not_mem_marks_of_isIdentifier hname
    obtain ⟨c, rest, rfl, -⟩ := id hname
    refine ⟨?_, ?_⟩
    · rw [← List.append_nil (c :: rest)]
      exact .unmarked hlead.not_mem_marks (.unmarked hmarks .nil)
    · rw [List.getLast?_append, List.getLast?_eq_some_getLast (List.cons_ne_nil c rest)]
      exact hends (hmarks _ (List.getLast_mem _))
  | called hlead hname hgap hargs =>
    refine ⟨.unmarked hlead.not_mem_marks (.unmarked (not_mem_marks_of_isIdentifier hname)
      (.unmarked hgap.not_mem_marks (.bracket rfl hargs))), ?_⟩
    rw [← List.append_assoc, ← List.append_assoc, List.getLast?_append, ← List.cons_append,
      List.getLast?_concat, Option.some_or]
    decide

lemma SpellsRest.nested (h : SpellsRest Nested text calls) : Nested text := by
  induction h with
  | nil => exact .nil
  | blank hc _ ih =>
    have hmarks := not_mem_marks_of_isBlank hc
    exact .cons (advance_of_not_mem hmarks) (ne_of_not_mem_marks hmarks (by decide)) ih
  | part hpart hrest ih =>
    obtain ⟨hnested, hends⟩ := hpart.nested
    exact .cons rfl (by decide) (hnested.append ih (fun hlast => absurd hlast hends) hrest.follows)

lemma Spells.nested (h : Spells Nested text calls) : Nested text := by
  cases h with
  | chain hpart hrest =>
    obtain ⟨hnested, hends⟩ := hpart.nested
    exact hnested.append hrest.nested (fun hlast => absurd hlast hends) hrest.follows

/-! ## Calls of defaults among the parts -/

/-- What opens a default behind a dot and blanks is its name. -/
lemma eq_defaultName_of_callOpening? (hlead : Blanks lead) (hname : IsIdentifier name)
    (htail : EndsName tail) {n : ℕ}
    (h : callOpening? [defaultName] ('.' :: (lead ++ (name ++ tail))) = some n) :
    name = defaultName ∧ ¬ Quits tail := by
  obtain ⟨blanks, gap, rest, hblanks, hgap, heq, -⟩ := callOpening?_iff.1 h
  have hnames : name ++ tail = defaultName ++ (gap ++ '(' :: rest) := by
    have hdrop := congrArg dropBlanks heq
    rw [dropBlanks_append hlead, dropBlanks_append hblanks, dropBlanks_of_starts (hname.starts _),
      dropBlanks_of_starts (isIdentifier_defaultName.starts _)] at hdrop
    exact hdrop
  have hread := identifier?_append hname htail
  rw [hnames, identifier?_append isIdentifier_defaultName
    (endsName_append hgap (endsName_paren rest))] at hread
  obtain ⟨rfl, rfl⟩ := Prod.mk.inj (Option.some.inj hread)
  exact ⟨rfl, not_quits fun c hc => Or.inl (hgap c hc)⟩

/-- A default whose argument list closes is a call, whatever stands behind it. -/
lemma callLength?_default {args : List Char} (hlead : Blanks lead) (hgap : Blanks gap)
    (hargs : Enclosed args) (rest : List Char) :
    callLength? [defaultName]
        ('.' :: (lead ++ (defaultName ++ (gap ++ '(' :: (args ++ ')' :: rest)))))
      = some (lead.length + defaultName.length + gap.length + args.length + 3) := by
  have hopening := callOpening?_iff.2 ⟨lead, gap, args ++ ')' :: rest, hlead, hgap, rfl, rfl⟩
  have hfront : '.' :: (lead ++ (defaultName ++ (gap ++ '(' :: (args ++ ')' :: rest))))
      = ('.' :: (lead ++ (defaultName ++ gap))) ++ '(' :: (args ++ ')' :: rest) := by
    simp
  have hlength : 1 + lead.length + defaultName.length + gap.length
      = ('.' :: (lead ++ (defaultName ++ gap))).length := by
    simp only [List.length_cons, List.length_append]
    omega
  unfold callLength?
  rw [hopening, hlength, hfront]
  simp only [Option.bind_eq_bind, Option.bind_some, List.drop_left, (enclosed_iff rest).1 hargs,
    Option.pure_def, Option.some.injEq]
  simp only [List.length_cons, List.length_append]
  omega

/-- Behind a dot, a part is cut exactly if it sets a default. -/
lemma callLength?_part (hpart : SpellsPart Nested part call) (hquits : Quits text) :
    callLength? [defaultName] ('.' :: (part ++ text))
      = if call.setsDefault then some (part.length + 1) else none := by
  -- a bare name is followed by no parenthesis, so only a called part named as the default is cut
  cases hpart with
  | @bare lead name hlead hname =>
    have hnone : callOpening? [defaultName] ('.' :: (lead ++ name ++ text)) = none := by
      rw [List.append_assoc, Option.eq_none_iff_forall_ne_some]
      intro n hn
      exact (eq_defaultName_of_callOpening? hlead hname hquits.endsName hn).2 hquits
    have hdefault : (⟨String.ofList name, none⟩ : Call).setsDefault = false := rfl
    unfold callLength?
    rw [hnone, hdefault]
    rfl
  | @called lead name gap args hlead hname hgap hargs =>
    have hwhole : lead ++ (name ++ (gap ++ '(' :: (args ++ [')']))) ++ text
        = lead ++ (name ++ (gap ++ '(' :: (args ++ ')' :: text))) := by
      simp
    rw [hwhole]
    by_cases hdefault : name = defaultName
    · subst hdefault
      have hsets : (⟨String.ofList defaultName, some args⟩ : Call).setsDefault = true := rfl
      rw [callLength?_default hlead hgap (enclosed_of_balanced hargs.balanced), hsets, if_pos rfl]
      simp only [Option.some.injEq, List.length_cons, List.length_append, List.length_nil]
      omega
    · have hnone : callOpening? [defaultName]
          ('.' :: (lead ++ (name ++ (gap ++ '(' :: (args ++ ')' :: text))))) = none := by
        rw [Option.eq_none_iff_forall_ne_some]
        intro n hn
        have hends := endsName_append hgap (endsName_paren (args ++ ')' :: text))
        exact hdefault (eq_defaultName_of_callOpening? hlead hname hends hn).1
      have hsets : (⟨String.ofList name, some args⟩ : Call).setsDefault = false := by
        have hne : String.ofList name ≠ "default" := by
          intro heq
          apply hdefault
          rw [← @String.toList_ofList name, heq]
          rfl
        simp [Call.setsDefault, hne]
      unfold callLength?
      rw [hnone, hsets]
      rfl

/-! ## The first default -/

/-- The first default behind the text is the first one of the whole, since the text has none. -/
def Passes (text : List Char) : Prop :=
  ∀ more, Quits more →
    callFrom [defaultName] {} (text ++ more) = later text.length (callFrom [defaultName] {} more)

/-- Of the three parts of a text, the one in the middle is its first default, whatever stands behind
the text. -/
structure CutsAt (before middle behind : List Char) : Prop where
  nonempty : middle ≠ []
  found : ∀ more, Quits more → callFrom [defaultName] {} (before ++ (middle ++ behind) ++ more)
    = some (before.length, middle.length)

variable {front before middle behind : List Char}

lemma passes_nil : Passes [] := fun _ _ => (later_zero _).symm

/-- There is no default where no character has a meaning of its own. -/
lemma callFrom_unmarked (h : ∀ c ∈ text, c ∉ marks) (rest : List Char) :
    callFrom [defaultName] {} (text ++ rest)
      = later text.length (callFrom [defaultName] {} rest) := by
  have hbalanced : Balanced text := by
    have hnested := Nested.nil.unmarked h
    rw [List.append_nil] at hnested
    exact hnested.balanced
  rw [callFrom_of_forall fun c hc => ne_of_not_mem_marks (h c hc) (by decide), hbalanced.final]

lemma passes_blank {c : Char} (h : isBlank c = true) : Passes [c] := fun more _ =>
  callFrom_unmarked (List.forall_mem_singleton.2 (not_mem_marks_of_isBlank h)) more

lemma Passes.append (hfront : Passes front) (h : Passes text)
    (hquits : ∀ more, Quits more → Quits (text ++ more)) : Passes (front ++ text) := by
  intro more hmore
  rw [List.append_assoc, hfront _ (hquits more hmore), h more hmore, later_later,
    List.length_append]

/-- The first default stays the first one behind a text without any. -/
lemma CutsAt.of_passes (h : CutsAt before middle behind) (hfront : Passes front)
    (hquits : ∀ more, Quits more → Quits (before ++ (middle ++ behind) ++ more)) :
    CutsAt (front ++ before) middle behind := by
  refine ⟨h.nonempty, fun more hmore => ?_⟩
  rw [List.append_assoc front, List.append_assoc front, hfront _ (hquits more hmore),
    h.found more hmore, later_some, List.length_append]

/-- And it does in front of any text that quits. -/
lemma CutsAt.append (h : CutsAt before middle behind)
    (hquits : ∀ more, Quits more → Quits (text ++ more)) :
    CutsAt before middle (behind ++ text) := by
  refine ⟨h.nonempty, fun more hmore => ?_⟩
  have hfound := h.found (text ++ more) (hquits more hmore)
  simpa using hfound

/-- Behind a dot, a part that sets a default is the default. -/
lemma SpellsPart.cutsAt (hpart : SpellsPart Nested part call) (hsets : call.setsDefault = true)
    (hrest : SpellsRest Nested text calls) : CutsAt [] ('.' :: part) text := by
  refine ⟨List.cons_ne_nil _ _, fun more hmore => ?_⟩
  have hwhole : [] ++ ('.' :: part ++ text) ++ more = '.' :: (part ++ (text ++ more)) := by simp
  rw [hwhole, callFrom, callLength?_part hpart (hrest.quits hmore), hsets]
  rfl

/-- The dot of a part that sets no default is passed. -/
lemma SpellsPart.callFrom_dot (hpart : SpellsPart Nested part call)
    (hsets : call.setsDefault = false) (htext : Quits text) :
    callFrom [defaultName] {} ('.' :: part ++ text)
      = later 1 (callFrom [defaultName] {} (part ++ text)) := by
  rw [List.cons_append, callFrom, callLength?_part hpart htext, hsets]
  rfl

lemma Passes.dot (h : Passes part) (hpart : SpellsPart Nested part call)
    (hsets : call.setsDefault = false) : Passes ('.' :: part) := by
  intro more hmore
  rw [hpart.callFrom_dot hsets hmore, h more hmore, later_later, List.length_cons, Nat.add_comm]

lemma CutsAt.dot (h : CutsAt before middle behind)
    (hpart : SpellsPart Nested (before ++ (middle ++ behind)) call)
    (hsets : call.setsDefault = false) : CutsAt ('.' :: before) middle behind := by
  refine ⟨h.nonempty, fun more hmore => ?_⟩
  rw [List.cons_append, hpart.callFrom_dot hsets hmore, h.found more hmore, later_some,
    List.length_cons, Nat.add_comm]

/-- The defaults of an argument list come first, and then those behind it. -/
lemma callFrom_paren {args : List Char} (h : Nested args) (more : List Char) :
    callFrom [defaultName] {} ('(' :: (args ++ ')' :: more))
      = later 1 ((callFrom [defaultName] {} args).or
          (later (args.length + 1) (callFrom [defaultName] {} more))) := by
  have hclose : callFrom [defaultName] (State.advance {} '(') (')' :: more)
      = later 1 (callFrom [defaultName] {} more) := rfl
  rw [callFrom_cons (by decide), callFrom_closer h.balanced (show closer? '(' = some ')' from rfl)
    ⟨rfl, rfl⟩, hclose, later_later]

/-- The first default in the argument list of a part, if there is one, and what is left of the part
without it. -/
lemma SpellsPart.cut (h : SpellsPart Nested part call) :
    (call.cleared = call ∧ Passes part) ∨
    ∃ before middle behind call', part = before ++ (middle ++ behind) ∧
      CutsAt before middle behind ∧ SpellsPart Nested (before ++ behind) call' ∧
      call'.cleared = call.cleared ∧ call'.setsDefault = call.setsDefault := by
  cases h with
  | bare hlead hname =>
    left
    refine ⟨rfl, fun more _ => callFrom_unmarked ?_ more⟩
    exact List.forall_mem_append.2 ⟨hlead.not_mem_marks, not_mem_marks_of_isIdentifier hname⟩
  | @called lead name gap args hlead hname hgap hargs =>
    -- only the argument list holds dots
    set front := lead ++ (name ++ gap) with hfront
    have hmarks : ∀ c ∈ front, c ∉ marks := List.forall_mem_append.2 ⟨hlead.not_mem_marks,
      List.forall_mem_append.2 ⟨not_mem_marks_of_isIdentifier hname, hgap.not_mem_marks⟩⟩
    have hwhole : ∀ args more, lead ++ (name ++ (gap ++ '(' :: (args ++ [')']))) ++ more
        = front ++ '(' :: (args ++ ')' :: more) := by
      intro args more
      simp [hfront]
    have hturn : ∀ more,
        callFrom [defaultName] {} (lead ++ (name ++ (gap ++ '(' :: (args ++ [')']))) ++ more)
        = later (front.length + 1) ((callFrom [defaultName] {} args).or
            (later (args.length + 1) (callFrom [defaultName] {} more))) := by
      intro more
      rw [hwhole, callFrom_unmarked hmarks, callFrom_paren hargs, later_later]
    cases hfound : callFrom [defaultName] {} args with
    | none =>
      left
      refine ⟨?_, fun more _ => ?_⟩
      · simp [Call.cleared, withoutDefaults_of_none hargs.balanced.plain hfound]
      · rw [hturn, hfound, Option.none_or, later_later]
        congr 1
        simp only [hfront, List.length_append, List.length_cons, List.length_nil]
        omega
    | some found =>
      right
      obtain ⟨before, middle, behind, rfl, hbefore, hmiddle, hne, hrest⟩ := hargs.cut hfound
      have hsplit : lead ++ (name ++ (gap ++ '(' :: (before ++ (middle ++ behind) ++ [')'])))
          = front ++ '(' :: before ++ (middle ++ (behind ++ [')'])) := by
        simp [hfront]
      refine ⟨front ++ '(' :: before, middle, behind ++ [')'],
        ⟨String.ofList name, some (before ++ behind)⟩, hsplit, ⟨hne, fun more _ => ?_⟩, ?_, ?_, rfl⟩
      · rw [← hsplit, hturn, hfound, hmiddle, Option.some_or, later_some]
        simp only [Option.some.injEq, Prod.mk.injEq, and_true, List.length_append,
          List.length_cons, hbefore]
        omega
      · have hpart := SpellsPart.called hlead hname hgap hrest
        simpa [hfront] using hpart
      · have hcut := withoutDefaults_cut hargs.balanced.plain
          (by rw [hfound, hbefore, hmiddle])
        simp [Call.cleared, hcut]

/-! ## Cutting one default after the other -/

lemma clearedRest_cons (h : call.setsDefault = false) :
    clearedRest (call :: calls) = call.cleared :: clearedRest calls := by
  simp [clearedRest, h]

/-- The first default among the parts behind the first one, and what is left without it. -/
lemma SpellsRest.cut (h : SpellsRest Nested text calls) :
    (clearedRest calls = calls ∧ Passes text) ∨
    ∃ before middle behind calls', text = before ++ (middle ++ behind) ∧
      CutsAt before middle behind ∧ SpellsRest Nested (before ++ behind) calls' ∧
      clearedRest calls' = clearedRest calls := by
  induction h with
  | nil => exact Or.inl ⟨rfl, passes_nil⟩
  | @blank c text calls hc hrest ih =>
    have hquits : ∀ more, Quits more → Quits (text ++ more) := fun _ => hrest.quits
    rcases ih with ⟨hclear, hpass⟩ | ⟨before, middle, behind, calls', rfl, hcut, hspells, hclear⟩
    · exact Or.inl ⟨hclear, (passes_blank hc).append hpass hquits⟩
    · exact Or.inr ⟨c :: before, middle, behind, calls', rfl,
        hcut.of_passes (passes_blank hc) hquits, .blank hc hspells, hclear⟩
  | @part part text call calls hpart hrest ih =>
    have hquits : ∀ more, Quits more → Quits (text ++ more) := fun _ => hrest.quits
    cases hsets : call.setsDefault with
    | true =>
      right
      refine ⟨[], '.' :: part, text, calls, rfl, hpart.cutsAt hsets hrest, hrest, ?_⟩
      simp [clearedRest, hsets]
    | false =>
      rw [clearedRest_cons hsets]
      -- the first default stands inside this part, or behind it, or nowhere
      rcases hpart.cut with ⟨hcall, hpass⟩ |
        ⟨before, middle, behind, call', rfl, hcut, hspells, hcall, hkept⟩
      · have hdot := hpass.dot hpart hsets
        rcases ih with ⟨hclear, hnone⟩ |
          ⟨before, middle, behind, calls', rfl, hcut, hspells, hclear⟩
        · rw [hcall, hclear]
          exact Or.inl ⟨rfl, hdot.append hnone hquits⟩
        · right
          refine ⟨'.' :: part ++ before, middle, behind, call :: calls', by simp,
            hcut.of_passes hdot hquits, ?_, ?_⟩
          · rw [List.append_assoc]
            exact .part hpart hspells
          · rw [clearedRest_cons hsets, hclear]
      · right
        rw [hsets] at hkept
        refine ⟨'.' :: before, middle, behind ++ text, call' :: calls, by simp,
          (hcut.dot hpart hsets).append hquits, ?_, ?_⟩
        · have hwhole := SpellsRest.part hspells hrest
          rw [List.append_assoc] at hwhole
          exact hwhole
        · rw [clearedRest_cons hkept, hcall]

/-- The first default in a chain, and what is left without it. -/
lemma Spells.cut (h : Spells Nested text calls) :
    (cleared calls = calls ∧ Passes text) ∨
    ∃ before middle behind calls', text = before ++ (middle ++ behind) ∧
      CutsAt before middle behind ∧ Spells Nested (before ++ behind) calls' ∧
      cleared calls' = cleared calls := by
  cases h with
  | @chain part text call calls hpart hrest =>
    have hquits : ∀ more, Quits more → Quits (text ++ more) := fun _ => hrest.quits
    rcases hpart.cut with ⟨hcall, hpass⟩ |
      ⟨before, middle, behind, call', rfl, hcut, hspells, hcall, -⟩
    · rcases hrest.cut with ⟨hclear, hnone⟩ |
        ⟨before, middle, behind, calls', rfl, hcut, hspells, hclear⟩
      · rw [cleared, hcall, hclear]
        exact Or.inl ⟨rfl, hpass.append hnone hquits⟩
      · right
        refine ⟨part ++ before, middle, behind, call :: calls', by simp,
          hcut.of_passes hpass hquits, ?_, ?_⟩
        · rw [List.append_assoc]
          exact .chain hpart hspells
        · rw [cleared, cleared, hclear]
    · right
      refine ⟨before, middle, behind ++ text, call' :: calls, by simp, hcut.append hquits, ?_, ?_⟩
      · have hwhole := Spells.chain hspells hrest
        rw [List.append_assoc] at hwhole
        exact hwhole
      · rw [cleared, cleared, hcall]

/-- What is left of a chain without defaults spells what is left of its calls. -/
theorem Spells.withoutDefaults (h : Spells Nested text calls) :
    Spells Nested (withoutDefaults text) (cleared calls) := by
  -- by length: each default that is cut out leaves a shorter chain of the same calls
  induction hlength : text.length using Nat.strong_induction_on generalizing text calls with
  | _ n ih =>
    rcases h.cut with ⟨hclear, hpass⟩ |
      ⟨before, middle, behind, calls', rfl, hcut, hspells, hclear⟩
    · have hnone := hpass [] quits_nil
      rw [List.append_nil] at hnone
      rw [withoutDefaults_of_none h.nested.balanced.plain hnone, hclear]
      exact h
    · have hfound := hcut.found [] quits_nil
      rw [List.append_nil] at hfound
      rw [withoutDefaults_cut h.nested.balanced.plain hfound, ← hclear]
      refine ih _ ?_ hspells rfl
      have hpos := List.length_pos_iff.2 hcut.nonempty
      rw [← hlength]
      simp only [List.length_append]
      omega

/-! ## Nothing more to cut -/

lemma Nested.withoutDefaults (h : Nested text) : Nested (withoutDefaults text) := by
  refine Nested.cutInduction (motive := fun text => Nested (Chain.withoutDefaults text)) ?_ ?_ h
  · intro text h hnone
    rw [withoutDefaults_of_none h.balanced.plain hnone]
    exact h
  · intro before middle behind h _ hfound ih
    rw [withoutDefaults_cut h.balanced.plain hfound]
    exact ih

lemma withoutDefaults_withoutDefaults (h : Nested text) :
    Chain.withoutDefaults (Chain.withoutDefaults text) = Chain.withoutDefaults text := by
  refine Nested.cutInduction (motive := fun text =>
    Chain.withoutDefaults (Chain.withoutDefaults text) = Chain.withoutDefaults text) ?_ ?_ h
  · intro text h hnone
    rw [withoutDefaults_of_none h.balanced.plain hnone,
      withoutDefaults_of_none h.balanced.plain hnone]
  · intro before middle behind h _ hfound ih
    rw [withoutDefaults_cut h.balanced.plain hfound]
    exact ih

lemma Call.cleared_cleared (h : NestedArgs call) : call.cleared.cleared = call.cleared := by
  obtain ⟨name, args⟩ := call
  cases args with
  | none => rfl
  | some args =>
    have hargs := withoutDefaults_withoutDefaults (h args rfl)
    simp [Call.cleared, hargs]

lemma clearedRest_clearedRest (h : ∀ call ∈ calls, NestedArgs call) :
    clearedRest (clearedRest calls) = clearedRest calls := by
  induction calls with
  | nil => rfl
  | cons call rest ih =>
    have hrest := ih fun c hc => h c (List.mem_cons_of_mem _ hc)
    have hcall := Call.cleared_cleared (h call List.mem_cons_self)
    unfold clearedRest at hrest ⊢
    cases hsets : call.setsDefault with
    | true => simpa [hsets] using hrest
    | false => simpa [hsets, hcall] using hrest

/-- Nothing more is lost the second time. -/
theorem cleared_cleared (h : ∀ call ∈ calls, NestedArgs call) :
    cleared (cleared calls) = cleared calls := by
  cases calls with
  | nil => rfl
  | cons head rest =>
    rw [cleared, cleared, Call.cleared_cleared (h head List.mem_cons_self),
      clearedRest_clearedRest fun c hc => h c (List.mem_cons_of_mem _ hc)]

end Chain
end SlideContract
