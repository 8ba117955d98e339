import SlideContract.Text.Blank
import SlideContract.Text.CaseFamily
import SlideContract.Text.DecimalDigit
import SlideContract.Text.UpperCase
import SlideContract.Text.Word

/-!
# Sets of characters

A set is made of characters, ranges and classes, or is the complement of one. Characters of a set
are given by code points, since a pattern may name surrogates, which no text holds. A set that
disregards case looks at the lower case of a character.
-/

namespace SlideContract.Pattern

/-- How much a pattern knows of letters, digits and blanks: those of ASCII, or of all scripts. -/
inductive Alphabet where
  | ascii
  | unicode
  deriving DecidableEq, Repr

namespace Alphabet

/-- The lower case of a code point. -/
def lower : Alphabet → Nat → Nat
  | .ascii, n => if 0x41 ≤ n ∧ n ≤ 0x5a then n + 0x20 else n
  | .unicode, n => Text.lowerCode n

/-- The upper case of a code point. -/
def upper : Alphabet → Nat → Nat
  | .ascii, n => if 0x61 ≤ n ∧ n ≤ 0x7a then n - 0x20 else n
  | .unicode, n => Text.upperCode n

/-- The code points whose case aside is that of a given one, which is in lower case. -/
def family : Alphabet → Nat → List Nat
  | .ascii, n => if 0x61 ≤ n ∧ n ≤ 0x7a then [n, n - 0x20] else [n]
  | .unicode, n => Text.family n

end Alphabet

/-- The classes of characters that have a letter of their own. -/
inductive Class where
  | digit
  | blank
  | word
  deriving DecidableEq, Repr

/-- The character belongs to a class. -/
def Class.holds (kind : Class) (alphabet : Alphabet) (c : Char) : Bool :=
  match alphabet, kind with
  | .unicode, .digit => Text.isDigit c
  | .unicode, .blank => Text.isBlank c
  | .unicode, .word => Text.isWord c
  | .ascii, .digit => c.isDigit
  | .ascii, .blank => c == ' ' || (0x09 ≤ c.toNat && c.toNat ≤ 0x0d)
  | .ascii, .word => c.isAlphanum || c == '_'

/-- A part of a set of characters. -/
inductive SetItem where
  | char (code : Nat)
  | range (first last : Nat)
  | named (kind : Class) (alphabet : Alphabet) (negated : Bool)
  deriving DecidableEq, Repr

/-- A set of characters, or its complement. It disregards case if `fold` says by which alphabet,
and it may be a single character that is written without brackets. -/
structure CharSet where
  items : List SetItem
  negated : Bool := false
  bracketed : Bool := true
  fold : Option Alphabet := none
  deriving DecidableEq, Repr

/-- The greatest code point of the basic plane. -/
def basicPlaneEnd : Nat := 0xffff

namespace SetItem

/-- The character belongs to a part of a set. -/
def holds (c : Char) : SetItem → Bool
  | .char code => c.toNat == code
  | .range first last => first ≤ c.toNat && c.toNat ≤ last
  | .named kind alphabet negated => kind.holds alphabet c != negated

/-- The character, which is in lower case, belongs to a part of a set that disregards case. Beyond
the basic plane a character in brackets stands for itself alone, and a range for the characters in
it and their lower cases. -/
def holdsFolded (fold : Alphabet) (bracketed : Bool) (c : Char) : SetItem → Bool
  | .char code =>
    if bracketed ∧ basicPlaneEnd < code then c.toNat == code
    else (fold.family c.toNat).contains code
  | .range first last =>
    let inside (n : Nat) : Bool := first ≤ n && n ≤ last
    (fold.family c.toNat).any (fun n => inside n && n ≤ basicPlaneEnd) ||
      (basicPlaneEnd < last && (inside c.toNat || inside (Text.upperCode c.toNat)))
  | .named kind alphabet negated => kind.holds alphabet c != negated

end SetItem

namespace CharSet

/-- The character belongs to a set. -/
def holds (s : CharSet) (c : Char) : Bool :=
  let found :=
    match s.fold with
    | none => s.items.any (·.holds c)
    | some fold =>
      let c := Char.ofNat (fold.lower c.toNat)
      s.items.any (·.holdsFolded fold s.bracketed c)
  found != s.negated

/-- The set of a single character. -/
def single (code : Nat) (fold : Option Alphabet) : CharSet :=
  { items := [.char code], bracketed := false, fold }

end CharSet
end SlideContract.Pattern
