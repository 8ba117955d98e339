import SlideContract.Json.Reader
import SlideContract.Pattern.Source
import SlideContract.Text.CharacterName.Lookup

/-!
# Escapes in patterns

Behind a backslash a letter stands for a class of characters, a condition on the place, a control
character, or a character that its number or its name follows; digits stand for a group or for a
character; every other character stands for itself.
-/

namespace SlideContract.Pattern

/-- The control character that a letter stands for. -/
def controlOf? : Char → Option Char
  | 'a' => some '\x07'
  | 'f' => some '\x0c'
  | 'n' => some '\n'
  | 'r' => some '\r'
  | 't' => some '\t'
  | 'v' => some '\x0b'
  | _ => none

/-- The class that a letter stands for, a capital for its complement. -/
def classOf? (alphabet : Alphabet) : Char → Option SetItem
  | 'd' => some (.named .digit alphabet false)
  | 'D' => some (.named .digit alphabet true)
  | 's' => some (.named .blank alphabet false)
  | 'S' => some (.named .blank alphabet true)
  | 'w' => some (.named .word alphabet false)
  | 'W' => some (.named .word alphabet true)
  | _ => none

/-- The condition that a letter stands for. -/
def placeOf? (alphabet : Alphabet) : Char → Option Place
  | 'A' => some .textStart
  | 'Z' => some .textEnd
  | 'b' => some (.wordEdge alphabet)
  | 'B' => some (.noWordEdge alphabet)
  | _ => none

/-- The number that digits of a base write. -/
def numberOf (base : Nat) (digits : List Char) : Nat :=
  digits.foldl (fun total c => base * total + (Json.hexValue? c).getD 0) 0

/-- An octal digit. -/
def isOctal (c : Char) : Bool := '0' ≤ c && c ≤ '7'

namespace Reading

/-- The character that exactly `count` hexadecimal digits write. -/
def hexCode (count : Nat) : Reading Nat := do
  let digits ← takeWhile count fun c => (Json.hexValue? c).isSome
  let n := numberOf 16 digits
  if digits.length < count ∨ 0x10ffff < n then malformed else return n

/-- The character whose name stands in braces. -/
def namedCode : Reading Nat := do
  expect '\x7b'
  match Text.CharacterName.lookup? (← takeUntil '\x7d') with
  | some n => return n
  | none => malformed

/-- The character that an escape with the letter `c` stands for, other than a class or a place. -/
def characterCode (c : Char) : Reading Nat := do
  match controlOf? c with
  | some control => return control.toNat
  | none =>
    if c = 'x' then hexCode 2
    else if c = 'u' then hexCode 4
    else if c = 'U' then hexCode 8
    else if c = 'N' then namedCode
    else if c.isAlphanum then malformed
    else return c.toNat

/-- The character of an octal number, which is a byte. -/
def octalCode (digits : List Char) : Reading Nat :=
  let n := numberOf 8 digits
  if 0xff < n then malformed else return n

/-- The part of a set that an escape with the letter `c` stands for. -/
def setEscape (c : Char) : Reading SetItem := do
  match classOf? (← get).switches.alphabet c with
  | some item => return item
  | none =>
    if c = 'b' then return .char 0x08
    else if isOctal c then return .char (← octalCode (c :: (← takeWhile 2 isOctal)))
    else return .char (← characterCode c)

/-- What a group has matched, if it may be referred to. -/
def groupLeaf (index : Nat) : Reading Leaf := do
  let source ← get
  if source.isClosed index ∧ source.isBefore index then
    return .sameAs index source.switches.fold
  else malformed

/-- The single character with a code point. -/
def charLeaf (code : Nat) : Reading Leaf := return .char (.single code (← get).switches.fold)

/-- The group that one or two digits refer to, or the character that three octal ones write. -/
def numberLeaf (c : Char) : Reading Leaf := do
  let digits := c :: (← takeWhile 1 Char.isDigit)
  if digits.length = 2 ∧ digits.all isOctal then
    match ← takeWhile 1 isOctal with
    | [last] => charLeaf (← octalCode (digits ++ [last]))
    | _ => groupLeaf (numberOf 10 digits)
  else groupLeaf (numberOf 10 digits)

/-- The leaf that an escape with the letter `c` stands for outside of sets. -/
def escapeLeaf (c : Char) : Reading Leaf := do
  let switches := (← get).switches
  match placeOf? switches.alphabet c, classOf? switches.alphabet c with
  | some condition, _ => return .place condition
  | _, some item => return .char { items := [item], fold := switches.fold }
  | none, none =>
    if c = '0' then charLeaf (← octalCode (c :: (← takeWhile 2 isOctal)))
    else if c.isDigit then numberLeaf c
    else charLeaf (← characterCode c)

end Reading
end SlideContract.Pattern
