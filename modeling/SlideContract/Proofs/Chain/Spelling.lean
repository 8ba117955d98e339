import Mathlib.Data.List.TakeWhile
import SlideContract.Proofs.Chain.Parse
import SlideContract.Proofs.Scan.Reach
import SlideContract.Proofs.Scan.Split

/-!
# Spelled chains

A chain is spelled as its calls with blanks around their parts. What parsing accepts is such a text,
and parsing gives the calls that are spelled, if each argument list is closed where it ends.
Balanced argument lists are.

* `Spells.parse_enclosed`, `spells_enclosed_of_parse`: parsing reads off what is spelled;
* `parse_of_spells`, `spells_of_parse`: the same of what is known of the argument lists;
* `Spells.append`: more calls behind a chain;
* `Spells.uncut`: commas stand only inside the parentheses of a chain.
-/

namespace SlideContract
open Scan Text

/-- A call that can be spelled: a name, with an argument list that satisfies `P` if it is called. -/
structure Call.Legible (P : List Char → Prop) (call : Call) : Prop where
  name : IsIdentifier call.name.toList
  args : ∀ args ∈ call.args, P args

namespace Chain

variable {P Q : List Char → Prop}

/-- A part of a chain, with blanks before its name and before its argument list. -/
inductive SpellsPart (P : List Char → Prop) : List Char → Call → Prop where
  | bare {lead name : List Char} (hlead : Blanks lead) (hname : IsIdentifier name) :
    SpellsPart P (lead ++ name) ⟨String.ofList name, none⟩
  | called {lead name gap args : List Char} (hlead : Blanks lead) (hname : IsIdentifier name)
    (hgap : Blanks gap) (hargs : P args) :
    SpellsPart P (lead ++ (name ++ (gap ++ '(' :: (args ++ [')'])))) ⟨String.ofList name, some args⟩

/-- The parts behind the first one, each behind a dot, with blanks between them. -/
inductive SpellsRest (P : List Char → Prop) : List Char → List Call → Prop where
  | nil : SpellsRest P [] []
  | blank {c : Char} {text : List Char} {calls : List Call} (hc : isBlank c = true)
    (h : SpellsRest P text calls) : SpellsRest P (c :: text) calls
  | part {part text : List Char} {call : Call} {calls : List Call} (hpart : SpellsPart P part call)
    (h : SpellsRest P text calls) : SpellsRest P ('.' :: (part ++ text)) (call :: calls)

/-- A chain whose argument lists satisfy `P`: its first part, and the parts behind it. -/
inductive Spells (P : List Char → Prop) : List Char → List Call → Prop where
  | chain {part text : List Char} {call : Call} {calls : List Call} (hpart : SpellsPart P part call)
    (h : SpellsRest P text calls) : Spells P (part ++ text) (call :: calls)

variable {text more part front : List Char} {call : Call} {calls others : List Call}

/-! ## Argument lists -/

lemma SpellsPart.legible (h : SpellsPart P part call) : call.Legible P := by
  cases h with
  | bare hlead hname =>
    refine ⟨?_, fun args hargs => absurd hargs (by simp)⟩
    rw [String.toList_ofList]
    exact hname
  | called hlead hname hgap hargs =>
    refine ⟨?_, fun args hmem => ?_⟩
    · rw [String.toList_ofList]
      exact hname
    · rw [← Option.some.inj (show some _ = some args from hmem)]
      exact hargs

lemma SpellsRest.legible (h : SpellsRest P text calls) : ∀ call ∈ calls, call.Legible P := by
  induction h with
  | nil => exact fun call hcall => absurd hcall List.not_mem_nil
  | blank _ _ ih => exact ih
  | part hpart _ ih =>
    intro c hc
    rcases List.mem_cons.1 hc with rfl | hc
    · exact hpart.legible
    · exact ih c hc

lemma Spells.legible (h : Spells P text calls) : ∀ call ∈ calls, call.Legible P := by
  cases h with
  | chain hpart hrest =>
    intro c hc
    rcases List.mem_cons.1 hc with rfl | hc
    · exact hpart.legible
    · exact hrest.legible c hc

lemma SpellsPart.of_args (h : SpellsPart Q part call) (hargs : ∀ args ∈ call.args, P args) :
    SpellsPart P part call := by
  cases h with
  | bare hlead hname => exact .bare hlead hname
  | called hlead hname hgap _ => exact .called hlead hname hgap (hargs _ rfl)

lemma SpellsRest.of_args (h : SpellsRest Q text calls)
    (hargs : ∀ call ∈ calls, ∀ args ∈ call.args, P args) : SpellsRest P text calls := by
  induction h with
  | nil => exact .nil
  | blank hc _ ih => exact .blank hc (ih hargs)
  | part hpart _ ih =>
    exact .part (hpart.of_args (hargs _ List.mem_cons_self))
      (ih fun call hcall => hargs call (List.mem_cons_of_mem _ hcall))

/-- The same calls are spelled if more is known of their argument lists. -/
lemma Spells.of_args (h : Spells Q text calls)
    (hargs : ∀ call ∈ calls, ∀ args ∈ call.args, P args) : Spells P text calls := by
  cases h with
  | chain hpart hrest =>
    exact .chain (hpart.of_args (hargs _ List.mem_cons_self))
      (hrest.of_args fun call hcall => hargs call (List.mem_cons_of_mem _ hcall))

lemma SpellsPart.mono (hPQ : ∀ args, P args → Q args) (h : SpellsPart P part call) :
    SpellsPart Q part call :=
  h.of_args fun args hargs => hPQ args (h.legible.args args hargs)

lemma SpellsRest.mono (hPQ : ∀ args, P args → Q args) (h : SpellsRest P text calls) :
    SpellsRest Q text calls :=
  h.of_args fun call hcall args hargs => hPQ args ((h.legible call hcall).args args hargs)

lemma Spells.mono (hPQ : ∀ args, P args → Q args) (h : Spells P text calls) :
    Spells Q text calls :=
  h.of_args fun call hcall args hargs => hPQ args ((h.legible call hcall).args args hargs)

/-! ## Blanks -/

lemma SpellsPart.blanks (hfront : Blanks front) (h : SpellsPart P part call) :
    SpellsPart P (front ++ part) call := by
  cases h with
  | bare hlead hname =>
    rw [← List.append_assoc]
    exact .bare (hfront.append hlead) hname
  | called hlead hname hgap hargs =>
    rw [← List.append_assoc]
    exact .called (hfront.append hlead) hname hgap hargs

lemma SpellsRest.append (h : SpellsRest P text calls) (hmore : SpellsRest P more others) :
    SpellsRest P (text ++ more) (calls ++ others) := by
  induction h with
  | nil => exact hmore
  | blank hc _ ih => exact .blank hc ih
  | part hpart _ ih =>
    rw [List.cons_append, List.append_assoc]
    exact .part hpart ih

lemma SpellsRest.of_blanks (h : Blanks front) : SpellsRest P front [] := by
  induction front with
  | nil => exact .nil
  | cons c rest ih =>
    exact .blank (h c List.mem_cons_self) (ih fun d hd => h d (List.mem_cons_of_mem _ hd))

/-- A text begins with the blanks that are dropped. -/
lemma exists_blanks (text : List Char) :
    ∃ blanks, Blanks blanks ∧ text = blanks ++ dropBlanks text :=
  ⟨text.takeWhile isBlank, fun _ hc => List.mem_takeWhile_imp hc,
    List.takeWhile_append_dropWhile.symm⟩

/-- No parts are spelled by blanks alone. -/
lemma SpellsRest.blanks_of_nil (h : SpellsRest P text []) : Blanks text := by
  generalize hcalls : ([] : List Call) = calls at h
  induction h with
  | nil => exact blanks_nil
  | blank hc _ ih => exact .cons hc (ih hcalls)
  | part _ _ _ => exact absurd hcalls (by simp)

/-- No parts are spelled at the end of a text that ends with no blank, but by nothing. -/
lemma SpellsRest.eq_nil (h : SpellsRest P text []) (hstops : Stops (front ++ text)) :
    text = [] := by
  by_contra hsome
  rw [← List.dropLast_concat_getLast hsome, ← List.append_assoc] at hstops
  have hlast := hstops _ List.getLast?_concat
  rw [h.blanks_of_nil _ (List.getLast_mem hsome)] at hlast
  exact absurd hlast (by decide)

/-- The first of the parts stands behind blanks and a dot. -/
lemma SpellsRest.exists_part (h : SpellsRest P text (call :: calls)) :
    ∃ blanks part more, text = blanks ++ '.' :: (part ++ more) ∧ Blanks blanks ∧
      SpellsPart P part call ∧ SpellsRest P more calls := by
  generalize hcalls : call :: calls = others at h
  induction h with
  | nil => exact absurd hcalls (by simp)
  | @blank c text _ hc _ ih =>
    obtain ⟨blanks, part, more, rfl, hblanks, hpart, hmore⟩ := ih hcalls
    exact ⟨c :: blanks, part, more, rfl, .cons hc hblanks, hpart, hmore⟩
  | @part part text _ _ hpart hmore _ =>
    obtain ⟨rfl, rfl⟩ := List.cons.inj hcalls
    exact ⟨[], part, text, rfl, blanks_nil, hpart, hmore⟩

lemma SpellsRest.of_dropBlanks (h : SpellsRest P (dropBlanks text) calls) :
    SpellsRest P text calls := by
  obtain ⟨blanks, hblanks, heq⟩ := exists_blanks text
  rw [heq]
  exact (SpellsRest.of_blanks hblanks).append h

lemma exists_trim (text : List Char) :
    ∃ lead trail, Blanks lead ∧ Blanks trail ∧ text = lead ++ (trim text ++ trail) := by
  obtain ⟨lead, hlead, hfront⟩ := exists_blanks text
  obtain ⟨trail, htrail, hback⟩ := exists_blanks (dropBlanks text).reverse
  refine ⟨lead, trail.reverse, hlead, fun c hc => htrail c (List.mem_reverse.1 hc), ?_⟩
  have hreverse : dropBlanks text = trim text ++ trail.reverse := by
    have hback' := congrArg List.reverse hback
    rw [List.reverse_reverse, List.reverse_append] at hback'
    exact hback'
  rw [← hreverse]
  exact hfront

lemma trim_blanks {lead trail : List Char} (hlead : Blanks lead) (htrail : Blanks trail)
    (hstarts : Starts text) (hstops : Stops text) (hne : text ≠ []) :
    trim (lead ++ (text ++ trail)) = text := by
  unfold trim
  rw [dropBlanks_append hlead, dropBlanks_of_starts (hstarts.append hne trail)]
  have hreverse : Starts text.reverse := by
    intro c hc
    rw [List.head?_reverse] at hc
    exact hstops c hc
  unfold dropTrailingBlanks
  rw [List.reverse_append, dropBlanks_append fun c hc => htrail c (List.mem_reverse.1 hc),
    dropBlanks_of_starts hreverse, List.reverse_reverse]

/-! ## Ends -/

lemma SpellsRest.endsName (h : SpellsRest P text calls) : EndsName text := by
  cases h with
  | nil => exact fun c hc => absurd hc (by simp)
  | blank hc _ => exact endsName_cons (isNameChar_of_isBlank hc) _
  | part _ _ => exact endsName_dot _

lemma dropBlanks_cons {c : Char} (hc : isBlank c = true) (text : List Char) :
    dropBlanks (c :: text) = dropBlanks text :=
  @dropBlanks_append [c] (by simpa using hc) text

/-- Behind the blanks comes a dot, if anything. -/
lemma SpellsRest.head?_dropBlanks (h : SpellsRest P text calls) :
    ∀ c ∈ (dropBlanks text).head?, c = '.' := by
  induction h with
  | nil => exact fun c hc => absurd hc (by simp [dropBlanks])
  | blank hc _ ih =>
    rw [dropBlanks_cons hc]
    exact ih
  | part _ _ _ =>
    intro c hc
    exact (Option.some.inj (show some '.' = some c from hc)).symm

lemma SpellsRest.follows (h : SpellsRest P text calls) : Follows text := by
  cases h with
  | nil => exact follows_nil
  | blank hc _ =>
    have hmarks := not_mem_marks_of_isBlank hc
    exact ⟨by simpa using ne_of_not_mem_marks hmarks (by decide),
      by simpa using ne_of_not_mem_marks hmarks (by decide)⟩
  | part _ _ => exact ⟨by simp, by simp⟩

lemma SpellsPart.stops (h : SpellsPart P part call) : Stops part ∧ part ≠ [] := by
  cases h with
  | bare hlead hname =>
    obtain ⟨c, rest, rfl, -⟩ := id hname
    exact ⟨hname.stops.append (by simp) _, by simp⟩
  | @called lead name gap args hlead hname hgap hargs =>
    have hparen : Stops ('(' :: (args ++ [')'])) := stops_between (by decide) _ _
    refine ⟨?_, by simp⟩
    exact ((hparen.append (by simp) gap).append (by simp) name).append (by simp) lead

/-- A call ends with the parenthesis of its arguments. -/
lemma SpellsPart.getLast?_called (h : SpellsPart P part call) (hcalled : call.isCalled = true) :
    part.getLast? = some ')' := by
  cases h with
  | bare hlead hname => exact absurd hcalled (by simp [Call.isCalled])
  | @called lead name gap args hlead hname hgap hargs =>
    rw [← List.cons_append, ← List.append_assoc gap, ← List.append_assoc name,
      ← List.append_assoc lead, List.getLast?_concat]

/-- Calls with no blanks behind them end with a parenthesis. -/
lemma SpellsRest.getLast?_called (h : SpellsRest P text calls)
    (hcalled : ∀ call ∈ calls, call.isCalled = true) (hstops : Stops text) :
    ∀ c ∈ text.getLast?, c = ')' := by
  -- along the calls: without any there are only blanks, and no text stops with one
  induction calls generalizing text with
  | nil =>
    intro c hc
    have hblank := h.blanks_of_nil c (List.mem_of_mem_getLast? hc)
    rw [hstops c hc] at hblank
    exact absurd hblank (by decide)
  | cons call calls ih =>
    obtain ⟨blanks, part, more, rfl, -, hpart, hmore⟩ := h.exists_part
    have hsplit : blanks ++ '.' :: (part ++ more) = (blanks ++ '.' :: part) ++ more := by simp
    intro c hc
    rw [hsplit] at hc hstops
    by_cases hne : more = []
    · rw [hne, List.append_nil, List.getLast?_append, List.getLast?_cons,
        hpart.getLast?_called (hcalled call List.mem_cons_self)] at hc
      exact (Option.some.inj hc).symm
    · have hmoreLast : (blanks ++ '.' :: part ++ more).getLast? = more.getLast? := by
        rw [List.getLast?_append, List.getLast?_eq_some_getLast hne, Option.some_or]
      refine ih hmore (fun d hd => hcalled d (List.mem_cons_of_mem _ hd)) ?_ c (hmoreLast ▸ hc)
      exact fun d hd => hstops d (hmoreLast.symm ▸ hd)

/-- A part from its name on. -/
lemma SpellsPart.exists_starts (h : SpellsPart P part call) :
    ∃ blanks part', part = blanks ++ part' ∧ Blanks blanks ∧ SpellsPart P part' call ∧
      ∀ more, Starts (part' ++ more) := by
  cases h with
  | @bare lead name hlead hname =>
    exact ⟨lead, name, rfl, hlead, .bare blanks_nil hname, hname.starts⟩
  | @called lead name gap args hlead hname hgap hargs =>
    refine ⟨lead, _, rfl, hlead, .called blanks_nil hname hgap hargs, fun more => ?_⟩
    rw [List.append_assoc]
    exact hname.starts _

/-- The parts without the blanks behind them. -/
lemma SpellsRest.exists_stops (h : SpellsRest P text calls) :
    ∃ text' blanks, text = text' ++ blanks ∧ Blanks blanks ∧ SpellsRest P text' calls ∧
      Stops text' := by
  -- by the spelling: blanks are taken off as long as nothing but blanks is behind them
  induction h with
  | nil => exact ⟨[], [], rfl, blanks_nil, .nil, fun c hc => absurd hc (by simp)⟩
  | @blank c text calls hc _ ih =>
    obtain ⟨text', blanks, rfl, hblanks, hrest, hstops⟩ := ih
    cases text' with
    | nil =>
      exact ⟨[], c :: blanks, rfl, .cons hc hblanks, hrest, hstops⟩
    | cons d rest =>
      exact ⟨c :: d :: rest, blanks, rfl, hblanks, .blank hc hrest, hstops.append (by simp) [c]⟩
  | @part part text call calls hpart _ ih =>
    obtain ⟨text', blanks, rfl, hblanks, hrest, hstops⟩ := ih
    refine ⟨'.' :: (part ++ text'), blanks, by simp, hblanks, .part hpart hrest, ?_⟩
    obtain ⟨hpart', hne⟩ := hpart.stops
    cases text' with
    | nil =>
      rw [List.append_nil]
      exact hpart'.append hne ['.']
    | cons c rest => exact (hstops.append (by simp) part).append (by simp) ['.']

/-- A chain without the blanks at its ends. -/
lemma Spells.exists_trim (h : Spells P text (call :: calls)) :
    ∃ part rest, trim text = part ++ rest ∧ SpellsPart P part call ∧ SpellsRest P rest calls ∧
      Starts (part ++ rest) ∧ Stops (part ++ rest) := by
  cases h with
  | chain hpart hrest =>
    obtain ⟨lead, part, rfl, hlead, hpart', hstarts⟩ := hpart.exists_starts
    obtain ⟨rest, trail, rfl, htrail, hrest', hstops⟩ := hrest.exists_stops
    obtain ⟨hends, hne⟩ := hpart'.stops
    have hwhole : Stops (part ++ rest) := by
      cases rest with
      | nil =>
        rw [List.append_nil]
        exact hends
      | cons c cs => exact hstops.append (by simp) part
    refine ⟨part, rest, ?_, hpart', hrest', hstarts rest, hwhole⟩
    rw [List.append_assoc, ← List.append_assoc part]
    exact trim_blanks hlead htrail (hstarts rest) hwhole (by simp [hne])

lemma Spells.trim (h : Spells P text calls) : Spells P (trim text) calls := by
  cases h with
  | chain hpart hrest =>
    obtain ⟨part, rest, heq, hpart', hrest', -⟩ := (Spells.chain hpart hrest).exists_trim
    rw [heq]
    exact .chain hpart' hrest'

/-- A chain without the blanks at its ends is not empty. -/
lemma Spells.trim_ends (h : Spells P text calls) :
    Starts (Text.trim text) ∧ Stops (Text.trim text) ∧ Text.trim text ≠ [] := by
  cases h with
  | chain hpart hrest =>
    obtain ⟨part, rest, heq, hpart', -, hstarts, hstops⟩ := (Spells.chain hpart hrest).exists_trim
    rw [heq]
    exact ⟨hstarts, hstops, fun hnil => hpart'.stops.2 (List.append_eq_nil_iff.1 hnil).1⟩

/-! ## Parsing what is spelled -/

lemma part?_of_spells (hpart : SpellsPart Enclosed part call)
    (hrest : SpellsRest Enclosed text calls) :
    part? (dropBlanks (part ++ text)) = some (call, dropBlanks text) := by
  cases hpart with
  | @bare lead name hlead hname =>
    have hparen : (dropBlanks text).head? ≠ some '(' := by
      intro hhead
      exact absurd (hrest.head?_dropBlanks _ hhead) (by decide)
    rw [List.append_assoc, dropBlanks_append hlead, dropBlanks_of_starts (hname.starts text),
      part?_bare hname hrest.endsName hparen, dropBlanks_dropBlanks]
  | @called lead name gap args hlead hname hgap hargs =>
    have hcalled := part?_called hname hgap hargs text
    rw [List.append_assoc, dropBlanks_append hlead, List.append_assoc,
      dropBlanks_of_starts (hname.starts _), List.append_assoc, List.cons_append,
      List.append_assoc, List.singleton_append]
    exact hcalled

lemma parts?_of_spells (h : SpellsRest Enclosed text calls) :
    parts? (dropBlanks text) = some calls := by
  induction h with
  | nil => exact parts?_nil
  | blank hc _ ih =>
    rw [dropBlanks_cons hc]
    exact ih
  | @part part text call calls hpart hrest ih =>
    have hstarts : Starts ('.' :: (part ++ text)) := starts_cons (by decide) _
    have hdot := parts?_dot blanks_nil (part?_of_spells hpart hrest)
    rw [List.nil_append] at hdot
    rw [dropBlanks_of_starts hstarts, hdot, ih]
    rfl

/-- Parsing gives the calls that are spelled. -/
lemma Spells.parse_enclosed (h : Spells Enclosed text calls) : parse text = some calls := by
  cases h with
  | @chain part text call calls hpart hrest =>
    obtain ⟨part', rest, heq, hpart', hrest', hstarts, -⟩ := (Spells.chain hpart hrest).exists_trim
    have hread := part?_of_spells hpart' hrest'
    rw [dropBlanks_of_starts hstarts] at hread
    unfold parse
    rw [heq, hread]
    simp only [Option.bind_eq_bind, Option.bind_some, parts?_of_spells hrest', Option.pure_def]

/-- Parsing gives the calls that are spelled with balanced argument lists. -/
theorem parse_of_spells (h : Spells Balanced text calls) : parse text = some calls :=
  (h.mono fun _ => enclosed_of_balanced).parse_enclosed

/-! ## What is spelled is what is parsed -/

lemma identifier?_eq_some {name rest : List Char} (h : identifier? text = some (name, rest)) :
    text = name ++ rest ∧ IsIdentifier name := by
  cases text with
  | nil => exact absurd h (by simp [identifier?])
  | cons c cs =>
    rw [identifier?] at h
    split at h
    · rename_i hstart
      obtain ⟨rfl, rfl⟩ := Prod.mk.inj (Option.some.inj h)
      refine ⟨?_, c, _, rfl, hstart, fun d hd => List.mem_takeWhile_imp hd⟩
      rw [List.cons_append, List.takeWhile_append_dropWhile]
    · exact absurd h (by simp)

lemma arguments?_eq_some {args : Option (List Char)} {rest : List Char}
    (h : arguments? text = some (args, rest)) :
    (args = none ∧ rest = text) ∨
      ∃ inner, args = some inner ∧ text = '(' :: (inner ++ ')' :: rest) ∧ Enclosed inner := by
  unfold arguments? at h
  split at h
  · rename_i hhead
    right
    obtain ⟨n, hn, heq⟩ := Option.map_eq_some_iff.1 h
    obtain ⟨rfl, rfl⟩ := Prod.mk.inj heq
    cases text with
    | nil => exact absurd hhead (by simp)
    | cons c cs =>
      rw [List.head?_cons, Option.some.injEq] at hhead
      subst hhead
      obtain ⟨inner, behind, rfl, rfl, hmore⟩ :=
        regionLength?_through (show closer? '(' = some ')' from rfl) hn
      refine ⟨inner, ?_, ?_, hmore []⟩
      · rw [List.drop_one, List.tail_cons, Nat.add_sub_cancel, List.take_left]
      · rw [List.drop_succ_cons, ← List.drop_drop, List.drop_left]
        rfl
  · left
    obtain ⟨rfl, rfl⟩ := Prod.mk.inj (Option.some.inj h)
    exact ⟨rfl, rfl⟩

lemma spells_of_part? {rest : List Char} (h : part? text = some (call, rest)) :
    ∃ part behind, text = part ++ behind ∧ SpellsPart Enclosed part call ∧
      rest = dropBlanks behind := by
  simp only [part?, Option.bind_eq_bind, Option.bind_eq_some_iff, Option.pure_def,
    Option.some.injEq, Prod.mk.injEq] at h
  obtain ⟨⟨name, behind⟩, hname, ⟨args, left⟩, hleft, rfl, rfl⟩ := h
  obtain ⟨rfl, hidentifier⟩ := identifier?_eq_some hname
  obtain ⟨gap, hgap, hsplit⟩ := exists_blanks behind
  rcases arguments?_eq_some hleft with ⟨rfl, rfl⟩ | ⟨inner, rfl, hparen, hinner⟩
  · refine ⟨name, behind, rfl, ?_, ?_⟩
    · exact .bare blanks_nil hidentifier
    · exact dropBlanks_dropBlanks behind
  · refine ⟨name ++ (gap ++ '(' :: (inner ++ [')'])), left, ?_, ?_, rfl⟩
    · rw [hsplit, hparen]
      simp
    · exact .called blanks_nil hidentifier hgap hinner

lemma spells_of_parts? (h : parts? text = some calls) : SpellsRest Enclosed text calls := by
  fun_induction parts? text generalizing calls with
  | case1 =>
    rw [← Option.some.inj h]
    exact .nil
  | case2 c rest more hdot call left hpart hleft ih =>
    obtain ⟨calls', hcalls, rfl⟩ := Option.map_eq_some_iff.1 h
    have hrest := ih hcalls
    obtain ⟨part, behind, hmore, hspells, rfl⟩ := spells_of_part? hpart
    obtain ⟨gap, hgap, hsplit⟩ := exists_blanks more
    apply SpellsRest.of_dropBlanks
    rw [hdot, hsplit, hmore, ← List.append_assoc]
    exact .part (hspells.blanks hgap) (.of_dropBlanks hrest)
  | case3 => exact absurd h (by simp)
  | case4 => exact absurd h (by simp)

/-- What parsing accepts is spelled, with argument lists that are closed where they end. -/
lemma spells_enclosed_of_parse (h : parse text = some calls) : Spells Enclosed text calls := by
  simp only [parse, Option.bind_eq_bind, Option.bind_eq_some_iff, Option.pure_def,
    Option.some.injEq] at h
  obtain ⟨⟨call, rest⟩, hpart, calls', hrest, rfl⟩ := h
  obtain ⟨part, behind, hsplit, hspells, rfl⟩ := spells_of_part? hpart
  have hparts := spells_of_parts? hrest
  obtain ⟨lead, trail, hlead, htrail, hwhole⟩ := Chain.exists_trim text
  rw [hwhole, hsplit, List.append_assoc, ← List.append_assoc lead]
  have hmore := hparts.of_dropBlanks.append (.of_blanks htrail)
  rw [List.append_nil] at hmore
  exact .chain (hspells.blanks hlead) hmore

/-- What parsing accepts is spelled. -/
theorem spells_of_parse (h : parse text = some calls)
    (hargs : ∀ call ∈ calls, ∀ args ∈ call.args, P args) :
    Spells P text calls :=
  (spells_enclosed_of_parse h).of_args hargs

/-! ## As a part of a longer text -/

lemma SpellsPart.balanced (h : SpellsPart Balanced part call) : Balanced part := by
  cases h with
  | @bare lead name hlead hname =>
    rw [← List.append_nil name]
    exact .blanks hlead (.unmarked (not_mem_marks_of_isIdentifier hname) .nil)
  | called hlead hname hgap hargs =>
    refine .blanks hlead (.unmarked (not_mem_marks_of_isIdentifier hname) ?_)
    exact .blanks hgap (.bracket rfl hargs)

lemma SpellsPart.uncut (h : SpellsPart Balanced part call) : Uncut ',' part := by
  have hcomma : ',' ∈ marks := by decide
  cases h with
  | @bare lead name hlead hname =>
    rw [← List.append_nil name]
    exact .unmarked hlead.not_mem_marks hcomma
      (.unmarked (not_mem_marks_of_isIdentifier hname) hcomma .nil)
  | called hlead hname hgap hargs =>
    refine .unmarked hlead.not_mem_marks hcomma ?_
    refine .unmarked (not_mem_marks_of_isIdentifier hname) hcomma ?_
    exact .unmarked hgap.not_mem_marks hcomma (uncut_bracket rfl hargs (by decide))

lemma SpellsRest.uncut (h : SpellsRest Balanced text calls) : Uncut ',' text := by
  induction h with
  | nil => exact .nil
  | @blank c text calls hc hrest ih =>
    have hmarks : ∀ d ∈ [c], d ∉ marks := by simpa using not_mem_marks_of_isBlank hc
    exact .unmarked hmarks (by decide) ih
  | @part part text call calls hpart hrest ih =>
    have hdot : Uncut ',' ['.'] := .of_forall (by simp)
    exact hdot.append (.char rfl) (hpart.uncut.append hpart.balanced ih)

lemma Spells.uncut (h : Spells Balanced text calls) : Uncut ',' text := by
  cases h with
  | chain hpart hrest => exact hpart.uncut.append hpart.balanced hrest.uncut

/-! ## Putting chains together -/

/-- More calls behind a chain. -/
lemma Spells.append (h : Spells P text calls) (hmore : SpellsRest P more others) :
    Spells P (text ++ more) (calls ++ others) := by
  cases h with
  | chain hpart hrest =>
    rw [List.append_assoc]
    exact .chain hpart (hrest.append hmore)

end Chain
end SlideContract
