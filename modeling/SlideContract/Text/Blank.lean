/-!
# Blanks

White space over all of Unicode, and the ways a text is cleared of it: at both ends, at the front,
and between its words. Around numbers the separators of information are no blanks.
-/

namespace SlideContract.Text

/-- White space: the ASCII blanks and separators, the no-break and typographic spaces, and the line
and paragraph separators. The zero width space and the byte order mark are not blanks. -/
def isBlank (c : Char) : Bool :=
  let n := c.toNat
  n == 0x20 || (0x09 ≤ n && n ≤ 0x0d) || (0x1c ≤ n && n ≤ 0x1f) || n == 0x85 || n == 0xa0 ||
    n == 0x1680 || (0x2000 ≤ n && n ≤ 0x200a) || n == 0x2028 || n == 0x2029 || n == 0x202f ||
    n == 0x205f || n == 0x3000

/-- The text from its first character that is not blank. -/
def dropBlanks (text : List Char) : List Char := text.dropWhile isBlank

/-- The text without the blanks at its end. -/
def dropTrailingBlanks (text : List Char) : List Char := (dropBlanks text.reverse).reverse

/-- The text without the blanks at its two ends. -/
def trim (text : List Char) : List Char := dropTrailingBlanks (dropBlanks text)

/-- The blanks that may stand around a number: white space except for the separators of
information. -/
def isOuterBlank (c : Char) : Bool := isBlank c && !(0x1c ≤ c.toNat && c.toNat ≤ 0x1f)

/-- The text without the blanks that may stand around a number. -/
def trimOuter (text : List Char) : List Char :=
  ((text.dropWhile isOuterBlank).reverse.dropWhile isOuterBlank).reverse

/-- The words of a text that follow the unfinished word `word`, given in reverse. -/
def wordsAfter (word : List Char) : List Char → List (List Char)
  | [] => if word.isEmpty then [] else [word.reverse]
  | c :: rest =>
    if isBlank c then
      if word.isEmpty then wordsAfter [] rest else word.reverse :: wordsAfter [] rest
    else wordsAfter (c :: word) rest

/-- The maximal runs of characters that are not blank. -/
def words (text : List Char) : List (List Char) := wordsAfter [] text

/-- The text with every run of blanks between words written as one space, and none at its ends. -/
def singleSpaced (text : List Char) : List Char := List.intercalate [' '] (words text)

end SlideContract.Text
