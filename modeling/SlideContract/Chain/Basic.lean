import SlideContract.Scan.Balanced
import SlideContract.Text.Blank
import SlideContract.Text.Word

/-!
# Chains

A chain is written as names joined by dots, each followed by an argument list or not, with blanks
around every part: `z.array(ItemSchema).min(1)`. Its calls are the names with the text between
their parentheses.
-/

namespace SlideContract

/-- One part of a chain: a name, and the text of its arguments if it is called. -/
structure Call where
  name : String
  args : Option (List Char)
  deriving DecidableEq, Repr, Inhabited

namespace Call

/-- The part is called. -/
def isCalled (c : Call) : Bool := c.args.isSome

/-- The text of one part. -/
def render (c : Call) : List Char :=
  match c.args with
  | none => c.name.toList
  | some args => c.name.toList ++ '(' :: args ++ [')']

end Call

namespace Chain

/-- The text of a chain. -/
def render (calls : List Call) : List Char := List.intercalate ['.'] (calls.map Call.render)

/-- The identifier that a text begins with, and what follows it. -/
def identifier? : List Char → Option (List Char × List Char)
  | [] => none
  | c :: rest =>
    if Text.isNameStart c then
      some (c :: rest.takeWhile Text.isNameChar, rest.dropWhile Text.isNameChar)
    else none

/-- The arguments that a text begins with, if it opens a parenthesis, and what follows them; none
if the parenthesis does not close. -/
def arguments? (text : List Char) : Option (Option (List Char) × List Char) :=
  if text.head? = some '(' then
    (Scan.regionLength? text).map fun n => (some ((text.drop 1).take (n - 2)), text.drop n)
  else some (none, text)

/-- The part of a chain that a text begins with, and what follows it and the blanks behind it. -/
def part? (text : List Char) : Option (Call × List Char) := do
  let (name, rest) ← identifier? text
  let (args, rest) ← arguments? (Text.dropBlanks rest)
  return (⟨String.ofList name, args⟩, Text.dropBlanks rest)

theorem length_dropBlanks_le (text : List Char) : (Text.dropBlanks text).length ≤ text.length :=
  List.Sublist.length_le (List.dropWhile_sublist _)

theorem length_of_identifier? {text name rest : List Char}
    (h : identifier? text = some (name, rest)) : rest.length < text.length := by
  cases text with
  | nil => simp [identifier?] at h
  | cons c cs =>
    simp only [identifier?] at h
    split at h
    · have hs := List.Sublist.length_le (List.dropWhile_sublist Text.isNameChar (l := cs))
      simp only [Option.some.injEq, Prod.mk.injEq] at h
      simp only [← h.2, List.length_cons]
      omega
    · simp at h

theorem length_of_arguments? {text rest : List Char} {args : Option (List Char)}
    (h : arguments? text = some (args, rest)) : rest.length ≤ text.length := by
  unfold arguments? at h
  split at h
  · obtain ⟨n, -, hn⟩ := Option.map_eq_some_iff.1 h
    simp only [Prod.mk.injEq] at hn
    simp [← hn.2]
  · simp only [Option.some.injEq, Prod.mk.injEq] at h
    simp [h.2]

/-- What follows a part is shorter. -/
theorem length_of_part? {text rest : List Char} {call : Call}
    (h : part? text = some (call, rest)) : rest.length < text.length := by
  simp only [part?, Option.bind_eq_bind, Option.bind_eq_some_iff, Option.pure_def,
    Option.some.injEq] at h
  obtain ⟨⟨name, r1⟩, h1, ⟨args, r2⟩, h2, h3⟩ := h
  simp only [Prod.mk.injEq] at h2 h3
  have a := length_of_identifier? h1
  have b := length_of_arguments? h2
  have c := length_dropBlanks_le r1
  have d := length_dropBlanks_le r2
  rw [← h3.2]
  omega

/-- The parts of a chain behind its first one, each with a dot before it. -/
def parts? (text : List Char) : Option (List Call) :=
  match text with
  | [] => some []
  | c :: rest =>
    match hd : Text.dropBlanks (c :: rest) with
    | '.' :: more =>
      match hp : part? (Text.dropBlanks more) with
      | some (call, left) =>
        have hleft : left.length < (c :: rest).length := by
          have h1 := length_of_part? hp
          have h2 := length_dropBlanks_le more
          have h3 := length_dropBlanks_le (c :: rest)
          rw [hd] at h3
          simp only [List.length_cons] at *
          omega
        (parts? left).map (call :: ·)
      | none => none
    | _ => none
  termination_by text.length
  decreasing_by exact hleft

/-- The calls of a chain, or none if the text is no clean chain. -/
def parse (text : List Char) : Option (List Call) := do
  let (call, rest) ← part? (Text.trim text)
  let calls ← parts? rest
  return call :: calls

end Chain
end SlideContract
