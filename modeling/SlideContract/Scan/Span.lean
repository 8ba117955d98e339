import SlideContract.Chain.Removal
import SlideContract.Scan.Balanced

/-!
# Spans of declarations

The text of a declaration runs from its builder namespace to the first closing parenthesis that
brings the depths of parentheses and braces back to zero, and on over the modifier calls behind it.
A semicolon, an unbalanced closer, or a line break at depth zero that no chain continues over, cuts
a declaration off.
-/

namespace SlideContract.Scan

/-- The methods whose calls still belong to a declaration behind its constructor. -/
def trailingMethods : List (List Char) :=
  ["default", "optional", "nullish", "min", "max", "length", "nonempty", "gte", "lte", "partial",
   "array", "describe"].map String.toList

/-- The depths of parentheses and braces are zero. -/
def State.outsideCalls (s : State) : Bool := s.paren == 0 && s.brace == 0

/-- What follows a namespace and its dot, if a text begins with these. -/
def afterNamespaceDot? (namespaceName text : List Char) : Option (List Char) := do
  let rest ← Text.after? namespaceName text
  match Text.dropBlanks rest with
  | '.' :: more => some more
  | _ => none

/-- The next character that is no blank is a dot that continues a chain; three dots do not. -/
def continuesChain (text : List Char) : Bool :=
  match Text.dropBlanks text with
  | '.' :: rest => !Text.beginsWith ['.', '.'] rest
  | _ => false

/-- A modifier call at the beginning of a text, blanks before its dot allowed: its length. -/
def trailingCall? (text : List Char) : Option Nat :=
  let blanks := (text.takeWhile Text.isBlank).length
  if (text.drop blanks).head? = some '.' then
    (Chain.callLength? trailingMethods (text.drop blanks)).map (blanks + ·)
  else none

theorem length_of_trailingCall? {text : List Char} {n : Nat} (h : trailingCall? text = some n) :
    0 < n ∧ 0 < text.length := by
  simp only [trailingCall?] at h
  split at h
  · rename_i hd
    obtain ⟨m, h1, rfl⟩ := Option.map_eq_some_iff.1 h
    have := Chain.length_of_callLength? h1
    refine ⟨by omega, ?_⟩
    cases text with
    | nil => simp at hd
    | cons => simp
  · simp at h

/-- The length of the modifier calls that a text begins with. -/
def trailingLength (text : List Char) : Nat :=
  match h : trailingCall? text with
  | none => 0
  | some n =>
    have := length_of_trailingCall? h
    n + trailingLength (text.drop n)
  termination_by text.length
  decreasing_by
    rw [List.length_drop]
    omega

/-- What a visited character means for the declaration it stands in. -/
inductive SpanStep where
  | inside
  | cut
  | closed
  deriving DecidableEq, Repr

/-- The meaning of a character of a declaration that `text` begins with. -/
def spanStep (text : List Char) (v : Visit) : SpanStep :=
  if !v.outside then .inside
  else if v.after.unbalanced || v.char == ';' then .cut
  else if v.char == '\n' && v.after.outsideCalls && !continuesChain (text.drop (v.index + 1)) then
    .cut
  else if v.char == ')' && v.after.outsideCalls then .closed
  else .inside

/-- The first character at which a declaration is cut off or closed. -/
def spanEnd? (text : List Char) : Option (Visit × SpanStep) :=
  (walk text).findSome? fun v =>
    match spanStep text v with
    | .inside => none
    | step => some (v, step)

/-- The declaration that a text begins with, blanks before it aside, if it is well formed. -/
def span? (namespaceName text : List Char) : Option (List Char) := do
  let text := Text.dropBlanks text
  let _ ← afterNamespaceDot? namespaceName text
  let (v, step) ← spanEnd? text
  if step = .closed then
    some (Text.trim (text.take (v.index + 1 + trailingLength (text.drop (v.index + 1)))))
  else none

end SlideContract.Scan
