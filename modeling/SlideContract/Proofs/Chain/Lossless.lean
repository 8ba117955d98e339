import SlideContract.Proofs.Chain.Render

/-!
# Tokens of chains

A chain is written as names, dots and argument lists, with blanks around each of them. Parsing loses
the blanks and nothing else, and fails on every text that is not written so.

* `Writes`, `tokens`: how a text is written, and what calls are written as;
* `spells_iff_writes`: spelling calls is writing their tokens;
* `parse_lossless`: what parsing accepts, what it reads, and what is left of it.
-/

namespace SlideContract.Chain
open Scan Text

/-! ## Tokens -/

/-- A name, a dot, or an argument list by the text between its parentheses. -/
inductive Token where
  | name (text : List Char)
  | dot
  | arguments (text : List Char)
  deriving DecidableEq, Repr

namespace Token

/-- The text of a token. -/
def text : Token → List Char
  | name text => text
  | dot => ['.']
  | arguments text => '(' :: (text ++ [')'])

/-- The token can stand in front of a text: names are identifiers, and an argument list is the
region that its parenthesis opens there. -/
def Stands (behind : List Char) : Token → Prop
  | name text => IsIdentifier text
  | dot => True
  | arguments text =>
    regionLength? ((arguments text).text ++ behind) = some (arguments text).text.length

end Token

/-- The text is the tokens in turn, with blanks before, between and behind them. -/
inductive Writes : List Char → List Token → Prop where
  | blanks {text : List Char} (h : Blanks text) : Writes text []
  | token {lead behind : List Char} {token : Token} {rest : List Token} (hlead : Blanks lead)
    (hstands : token.Stands behind) (h : Writes behind rest) :
    Writes (lead ++ (token.text ++ behind)) (token :: rest)

/-- A call is written as its name, with its argument list behind it. -/
def callTokens (call : Call) : List Token :=
  .name call.name.toList :: (call.args.map .arguments).toList

/-- The calls behind the first one are written with a dot in front of each. -/
def restTokens : List Call → List Token
  | [] => []
  | call :: calls => .dot :: (callTokens call ++ restTokens calls)

/-- The tokens of calls. -/
def tokens : List Call → List Token
  | [] => []
  | call :: calls => callTokens call ++ restTokens calls

variable {text behind part : List Char} {call : Call} {calls : List Call} {rest : List Token}

/-! ## Spelling and writing -/

lemma stands_arguments {args : List Char} :
    (Token.arguments args).Stands behind ↔ Enclosed args := by
  rw [enclosed_iff behind]
  simp [Token.Stands, Token.text]

lemma Writes.blank {c : Char} (hc : isBlank c = true) (h : Writes text rest) :
    Writes (c :: text) rest := by
  cases h with
  | blanks h => exact .blanks (.cons hc h)
  | token hlead hstands h => exact .token (.cons hc hlead) hstands h

/-- A part in front is written as the tokens of its call. -/
lemma SpellsPart.writes (hpart : SpellsPart Enclosed part call) (h : Writes behind rest) :
    Writes (part ++ behind) (callTokens call ++ rest) := by
  cases hpart with
  | @bare lead name hlead hname =>
    have hwrites := @Writes.token lead behind (.name name) rest hlead hname h
    simpa [callTokens, Token.text] using hwrites
  | @called lead name gap args hlead hname hgap hargs =>
    have hgroup := @Writes.token gap behind (.arguments args) rest hgap
      (stands_arguments.2 hargs) h
    have hwrites := @Writes.token lead _ (.name name) _ hlead hname hgroup
    simpa [callTokens, Token.text] using hwrites

/-- What the tokens of a call are written as is a part. -/
lemma Writes.exists_part (h : Writes text (callTokens call ++ rest)) :
    ∃ part behind, text = part ++ behind ∧ SpellsPart Enclosed part call ∧ Writes behind rest := by
  obtain ⟨name, args⟩ := call
  have hofList := @String.ofList_toList name
  cases args with
  | none =>
    cases h with
    | @token lead behind _ _ hlead hname h =>
      have hpart := SpellsPart.bare (P := Enclosed) hlead hname
      rw [hofList] at hpart
      exact ⟨lead ++ name.toList, behind, (List.append_assoc _ _ _).symm, hpart, h⟩
  | some args =>
    cases h with
    | @token lead _ _ _ hlead hname h =>
      cases h with
      | @token gap behind _ _ hgap hargs h =>
        have hpart := SpellsPart.called hlead hname hgap (stands_arguments.1 hargs)
        rw [hofList] at hpart
        exact ⟨_, behind, by simp [Token.text], hpart, h⟩

lemma spellsRest_iff_writes : SpellsRest Enclosed text calls ↔ Writes text (restTokens calls) := by
  constructor
  · intro h
    induction h with
    | nil => exact .blanks blanks_nil
    | blank hc _ ih => exact ih.blank hc
    | part hpart _ ih => exact @Writes.token [] _ .dot _ blanks_nil trivial (hpart.writes ih)
  · -- what comes first tells whether more calls follow, so that the induction is on the calls
    intro h
    induction calls generalizing text with
    | nil =>
      cases h with
      | blanks h => exact .of_blanks h
    | cons call calls ih =>
      cases h with
      | @token lead _ _ _ hlead _ h =>
        obtain ⟨part, behind, rfl, hpart, hbehind⟩ := h.exists_part
        have hdot := SpellsRest.part hpart (ih hbehind)
        exact (SpellsRest.of_blanks hlead).append hdot

/-- Spelling calls is writing their tokens. -/
lemma spells_iff_writes :
    Spells Enclosed text calls ↔ calls ≠ [] ∧ Writes text (tokens calls) := by
  constructor
  · rintro ⟨hpart, hrest⟩
    exact ⟨List.cons_ne_nil _ _, hpart.writes (spellsRest_iff_writes.1 hrest)⟩
  · rintro ⟨hne, h⟩
    obtain ⟨call, calls, rfl⟩ := List.exists_cons_of_ne_nil hne
    obtain ⟨part, behind, rfl, hpart, hbehind⟩ := h.exists_part
    exact .chain hpart (spellsRest_iff_writes.2 hbehind)

/-! ## Parsing and rendering -/

lemma parse_eq_some_iff :
    parse text = some calls ↔ calls ≠ [] ∧ Writes text (tokens calls) := by
  rw [← spells_iff_writes]
  exact ⟨spells_enclosed_of_parse, Spells.parse_enclosed⟩

lemma render_call (call : Call) : call.render = (callTokens call).flatMap Token.text := by
  obtain ⟨name, args⟩ := call
  cases args <;> simp [Call.render, callTokens, Token.text]

lemma renderRest_eq (calls : List Call) :
    renderRest calls = (restTokens calls).flatMap Token.text := by
  induction calls with
  | nil => rfl
  | cons call calls ih =>
    rw [renderRest_cons, restTokens, List.flatMap_cons, List.flatMap_append, ← render_call, ← ih]
    rfl

/-- The text of calls is their tokens without blanks. -/
lemma render_eq (calls : List Call) : render calls = (tokens calls).flatMap Token.text := by
  cases calls with
  | nil => rfl
  | cons call calls => rw [render_cons, render_call, renderRest_eq, tokens, List.flatMap_append]

/-- Parsing reads the calls that a text is written as, and nothing of a text that is not the tokens
of any calls with blanks around them. The text of the calls is that of their tokens, so the text
without these blanks, and it is parsed into the same calls. -/
theorem parse_lossless (text : List Char) :
    (∀ calls, parse text = some calls ↔ calls ≠ [] ∧ Writes text (tokens calls)) ∧
      (parse text = none ↔ ∀ calls, calls ≠ [] → ¬ Writes text (tokens calls)) ∧
      ∀ calls, parse text = some calls →
        render calls = (tokens calls).flatMap Token.text ∧ parse (render calls) = some calls := by
  refine ⟨fun calls => parse_eq_some_iff, ?_, fun calls h => ⟨render_eq calls, ?_⟩⟩
  · rw [Option.eq_none_iff_forall_ne_some]
    exact forall_congr' fun calls => by rw [ne_eq, parse_eq_some_iff, not_and]
  · have hspells := spells_enclosed_of_parse h
    exact (spells_render hspells.legible (spells_iff_writes.1 hspells).1).parse_enclosed

/-- A chain with blanks around its tokens, and parentheses in a string, in a comment and in the
arguments of another call. -/
theorem parse_lossless_blanks :
    ∃ calls, parse " z\n .array( f(')') /* ) */ ) . min (2) ".toList = some calls ∧
      parse (render calls) = some calls ∧
      render calls = "z.array( f(')') /* ) */ ).min(2)".toList := by
  let calls : List Call :=
    [⟨"z", none⟩, ⟨"array", some " f(')') /* ) */ ".toList⟩, ⟨"min", some ['2']⟩]
  have hparse : parse " z\n .array( f(')') /* ) */ ) . min (2) ".toList = some calls := by
    decide +kernel
  obtain ⟨hrender, hagain⟩ := (parse_lossless _).2.2 calls hparse
  refine ⟨calls, hparse, hagain, ?_⟩
  rw [hrender]
  decide +kernel

end SlideContract.Chain
