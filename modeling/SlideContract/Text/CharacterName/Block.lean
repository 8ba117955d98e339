import SlideContract.Text.Part

/-!
# Blocks of character names

The names of characters that follow one another share most of their words. A block gives the first
code point and the names from there on, each with only those words that it does not share with the
one before it.
-/

namespace SlideContract.Text.CharacterName

/-- Names of characters from the code point `first` on. Each is written behind the number of words
that it has in common with the one before it, and ends at a semicolon or a line break. -/
structure Block where
  first : Nat
  names : String

/-- The entry ends at the character. -/
def isEntryEnd (c : Char) : Bool := c == ';' || c == '\n'

/-- The words of a name. -/
def wordsOf (name : List Char) : List (List Char) := pieces (· == ' ') name

/-- The words of an entry behind a name of the given words. -/
def entryWords (previous : List (List Char)) : List Char → List (List Char)
  | [] => []
  | count :: rest => previous.take (count.toNat - 0x30) ++ wordsOf rest

/-- The code point with the given name among the entries from `n` on, behind a name of the words
`previous`. -/
def placeFrom? (name : List (List Char)) (n : Nat) (previous : List (List Char)) :
    List (List Char) → Option Nat
  | [] => none
  | entry :: rest =>
    let words := entryWords previous entry
    if words = name then some n else placeFrom? name (n + 1) words rest

/-- The code point of a block with the given name. -/
def Block.place? (b : Block) (name : List (List Char)) : Option Nat :=
  placeFrom? name b.first [] (pieces isEntryEnd b.names.toList)

end SlideContract.Text.CharacterName
