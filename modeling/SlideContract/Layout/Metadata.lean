import SlideContract.Chain.Literal
import SlideContract.Declaration.Search

/-!
# Layout metadata

A layout source may declare an identifier, a name and a description for itself as string constants.
The first such constant of a source counts; its literal ends at its own closing quote and holds no
line break.
-/

namespace SlideContract.Layout

/-- The identifier, name and description of a layout. -/
structure Metadata where
  identifier : String := "unknown"
  name : String := "Unknown Layout"
  description : String := ""
  deriving DecidableEq, Repr

/-- The lengths of what is left of a literal in `quote` to the end of its closing quote, for a text
and for the text without its first character. Reading an escape as one character is tried first,
then reading a plain character, then closing. -/
def closings (quote : Char) : List Char → Option Nat × Option Nat
  | [] => (none, none)
  | c :: rest =>
    let (behindOne, behindTwo) := closings quote rest
    let escape := if c = '\\' ∧ rest.head? ≠ some '\n' then behindTwo.map (· + 2) else none
    let plain := if c ≠ quote ∧ c ≠ '\n' then behindOne.map (· + 1) else none
    let close := if c = quote then some 1 else none
    ((escape.or plain).or close, behindOne)

/-- The literal that a text begins with, quotes included. -/
def literal? (text : List Char) : Option (List Char) :=
  match text with
  | [] => none
  | quote :: rest =>
    if Scan.isQuote quote then (closings quote rest).1.map fun n => text.take (n + 1) else none

/-- The literal of the constant `name` that a text begins with, knowing the character before. -/
def constantForm (name : String) (before : Option Char) (text : List Char) :
    Option (List Char) := do
  if !Declaration.atWordStart before then none else
  let rest ← Declaration.afterKeyword? "const" text
  let rest ← Text.after? name.toList rest
  match Text.dropBlanks rest with
  | '=' :: rest => literal? (Text.dropBlanks rest)
  | _ => none

/-- The literal of the first constant `name` in a text. -/
def firstConstant? (name : String) (before : Option Char) : List Char → Option (List Char)
  | [] => none
  | c :: rest => (constantForm name before (c :: rest)).or (firstConstant? name (some c) rest)

/-- The value of the constant `name` in a source, or the default if there is none or it is
empty. -/
def constantValue (source : List Char) (name default : String) : String :=
  match firstConstant? name none source >>= Chain.unquote with
  | some (c :: cs) => String.ofList (c :: cs)
  | _ => default

/-- The metadata that a source declares. -/
def metadata (source : List Char) : Metadata :=
  { identifier := constantValue source "layoutId" "unknown"
    name := constantValue source "layoutName" "Unknown Layout"
    description := constantValue source "layoutDescription" "" }

end SlideContract.Layout
