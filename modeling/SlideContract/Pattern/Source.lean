import SlideContract.Pattern.Query

/-!
# The text of a pattern

A pattern is read from signs: a character, or a backslash and the character behind it. While it is
read, the groups opened and closed so far are known, and the switches that hold.
-/

namespace SlideContract.Pattern

/-- A character of the text of a pattern, or the character behind a backslash. -/
inductive Sign where
  | plain (c : Char)
  | escaped (c : Char)
  deriving DecidableEq, Repr

/-- The signs of a text, and whether it ends in a lone backslash. -/
def signs : List Char → List Sign × Bool
  | [] => ([], false)
  | ['\\'] => ([], true)
  | '\\' :: c :: rest =>
    let (others, dangling) := signs rest
    (.escaped c :: others, dangling)
  | c :: rest =>
    let (others, dangling) := signs rest
    (.plain c :: others, dangling)

/-- What the switches of a pattern say. -/
structure Switches where
  anyCase : Bool := false
  lines : Bool := false
  dotAll : Bool := false
  spaced : Bool := false
  alphabet : Alphabet := .unicode

/-- The alphabet by which case is disregarded, if it is. -/
def Switches.fold (switches : Switches) : Option Alphabet :=
  if switches.anyCase then some switches.alphabet else none

/-- What is left to read of a pattern, and what is known of the part before. -/
structure Source where
  /-- The signs that are left. -/
  signs : List Sign
  /-- The text ends in a lone backslash. -/
  dangling : Bool := false
  /-- The switches that hold. -/
  switches : Switches := {}
  /-- The alphabets that the whole pattern is to know. -/
  alphabets : List Alphabet := []
  /-- Repetitions are switched off. -/
  unrepeated : Bool := false
  /-- The number of groups opened. -/
  opened : Nat := 0
  /-- The widths of the groups closed, by their numbers. -/
  widths : List (Nat × Width) := []
  /-- The numbers of groups by their names. -/
  names : List (String × Nat) := []
  /-- Inside a condition on the text behind: the number of groups opened before it. -/
  openedBefore : Option Nat := none
  /-- The numbers of groups that conditions ask for. -/
  asked : List Nat := []
  /-- A part was read that is refused once the text is read to its end. -/
  refused : Bool := false

/-- A step of reading. -/
abbrev Reading := StateT Source (Except Fault)

namespace Reading

/-- Reading ends, since the text is no pattern. -/
def malformed {α : Type} : Reading α := throw .malformed

/-- The next sign, which stays to be read. -/
def next? : Reading (Option Sign) := return (← get).signs.head?

/-- Goes on with the signs `rest`, an end of those that are left. A lone backslash at the end of the
text is a fault as soon as everything before it is read. -/
def goOn (rest : List Sign) : Reading Unit := do
  let source ← get
  if rest.isEmpty ∧ source.dangling then malformed
  set { source with signs := rest }

/-- The next sign, if there is one. -/
def take? : Reading (Option Sign) := do
  match (← get).signs with
  | [] => return none
  | sign :: rest =>
    goOn rest
    return some sign

/-- The next sign, which has to be there. -/
def takeSign : Reading Sign := do
  match ← take? with
  | some sign => return sign
  | none => malformed

/-- The character comes next, and is read if it does. -/
def skips (c : Char) : Reading Bool := do
  if (← next?) = some (.plain c) then
    let _ ← take?
    return true
  else return false

/-- The character comes next. -/
def expect (c : Char) : Reading Unit := do
  unless ← skips c do malformed

/-- The plain characters at the front of some signs that satisfy `holds`, at most `limit`. -/
def plainFront (holds : Char → Bool) : Nat → List Sign → List Char
  | limit + 1, .plain c :: rest => if holds c then c :: plainFront holds limit rest else []
  | _, _ => []

/-- The next characters that satisfy `holds`, at most `limit`. -/
def takeWhile (limit : Nat) (holds : Char → Bool) : Reading (List Char) := do
  let signs := (← get).signs
  let front := plainFront holds limit signs
  unless front.isEmpty do goOn (signs.drop front.length)
  return front

/-- The characters of a sign. -/
def charsOf : Sign → List Char
  | .plain c => [c]
  | .escaped c => ['\\', c]

/-- The text up to a closing mark, which is not empty. -/
def takeUntil (close : Char) : Reading (List Char) := do
  let signs := (← get).signs
  let front := signs.takeWhile (· ≠ .plain close)
  if front.isEmpty ∨ front.length = signs.length then malformed
  else
    goOn (signs.drop (front.length + 1))
    return front.flatMap charsOf

/-- Skips everything up to a closing mark, which has to be there, and the mark. -/
def skipPast (close : Char) : Reading Unit := do
  let signs := (← get).signs
  let front := signs.takeWhile (· ≠ .plain close)
  if front.length = signs.length then malformed else goOn (signs.drop (front.length + 1))

/-- Skips the rest of a line, or everything if no line ends. -/
def skipLine : Reading Unit := do
  let signs := (← get).signs
  unless signs.isEmpty do goOn ((signs.dropWhile (· ≠ .plain '\n')).drop 1)

/-- The result of `read`, behind which the switches are what they were before. -/
def keepSwitches {α : Type} (read : Reading α) : Reading α := do
  let switches := (← get).switches
  let a ← read
  modify fun source => { source with switches }
  return a

end Reading

/-- The width of a closed group. -/
def Source.widthOf (source : Source) (index : Nat) : Width :=
  (source.widths.lookup index).getD (.exactly 0)

/-- The group may be referred to: it is closed. -/
def Source.isClosed (source : Source) (index : Nat) : Bool := (source.widths.lookup index).isSome

/-- A condition on the text behind allows to refer to the group: it is closed and stands before the
condition. -/
def Source.isBefore (source : Source) (index : Nat) : Bool :=
  match source.openedBefore with
  | none => true
  | some opened => source.isClosed index && index ≤ opened

end SlideContract.Pattern
