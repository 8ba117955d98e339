import SlideContract.Text.CharacterName.Aliases
import SlideContract.Text.CharacterName.Alphabets
import SlideContract.Text.CharacterName.Ancient
import SlideContract.Text.CharacterName.EastAsian
import SlideContract.Text.CharacterName.Notation
import SlideContract.Text.CharacterName.Pictographs
import SlideContract.Text.CharacterName.Scripts
import SlideContract.Text.CharacterName.Signs
import SlideContract.Text.CharacterName.Symbols
import SlideContract.Text.Ranges

/-!
# Characters by name

Every character has a name. Most are listed; ideographs are named by their code points, and Korean
syllables by the sounds that they are made of. Only for listed names does case not matter.
-/

namespace SlideContract.Text.CharacterName

/-- The value of a hexadecimal digit that is no small letter. -/
def capitalHexValue? (c : Char) : Option Nat :=
  if c.isDigit then some (c.toNat - 0x30)
  else if 'A' ≤ c ∧ c ≤ 'F' then some (c.toNat - 0x37)
  else none

/-- The number that four or five hexadecimal digits write. -/
def codePoint? (digits : List Char) : Option Nat :=
  if digits.length = 4 ∨ digits.length = 5 then
    digits.foldl (fun total c => do return 16 * (← total) + (← capitalHexValue? c)) (some 0)
  else none

/-- The ranges of the ideographs that are named by their code points. -/
def unifiedIdeographs : List Nat :=
  [0x3400, 0x4dbf, 0x4e00, 0x9fff, 0x20000, 0x2a6df, 0x2a700, 0x2b738, 0x2b740, 0x2b81d,
   0x2b820, 0x2cea1, 0x2ceb0, 0x2ebe0, 0x30000, 0x3134a]

/-- The beginnings of further names that end in the code point, and the ranges of their
characters. -/
def numberedNames : List (String × List Nat) :=
  [("CJK COMPATIBILITY IDEOGRAPH-", [0xf900, 0xfa6d, 0xfa70, 0xfad9, 0x2f800, 0x2fa1d]),
   ("KHITAN SMALL SCRIPT CHARACTER-", [0x18b00, 0x18cd5]),
   ("NUSHU CHARACTER-", [0x1b170, 0x1b2fb])]

/-- The character of a numbered name; its number has no leading zero. -/
def numbered? (name : List Char) : Option Nat :=
  numberedNames.findSome? fun (start, ranges) => do
    let digits ← after? start.toList name
    let n ← codePoint? digits
    if inRanges ranges n && digits.head? != some '0' then some n else none

/-- The leading consonants of Korean syllables. -/
def leadingSounds : List String :=
  ["G", "GG", "N", "D", "DD", "R", "M", "B", "BB", "S", "SS", "", "J", "JJ", "C", "K", "T", "P",
   "H"]

/-- The vowels of Korean syllables. -/
def vowelSounds : List String :=
  ["A", "AE", "YA", "YAE", "EO", "E", "YEO", "YE", "O", "WA", "WAE", "OE", "YO", "U", "WEO", "WE",
   "WI", "YU", "EU", "YI", "I"]

/-- The trailing consonants of Korean syllables. -/
def trailingSounds : List String :=
  ["", "G", "GG", "GS", "N", "NJ", "NH", "D", "L", "LG", "LM", "LB", "LS", "LT", "LP", "LH", "M",
   "B", "BS", "S", "SS", "NG", "J", "C", "K", "T", "P", "H"]

/-- The number of the longest sound that a text begins with, and the rest of the text. -/
def longestSound? (sounds : List String) (text : List Char) : Option (Nat × List Char) :=
  sounds.zipIdx.foldl (fun best (sound, i) =>
    match after? sound.toList text with
    | some rest => if best.all (rest.length < ·.2.length) then some (i, rest) else best
    | none => best) none

/-- The Korean syllable with the given sounds. -/
def syllable? (sounds : List Char) : Option Nat := do
  let (leading, rest) ← longestSound? leadingSounds sounds
  let (vowel, rest) ← longestSound? vowelSounds rest
  let (trailing, rest) ← longestSound? trailingSounds rest
  if rest.isEmpty then
    some (0xac00 + (leading * vowelSounds.length + vowel) * trailingSounds.length + trailing)
  else none

/-- Every block of names. -/
def blocks : List Block :=
  alphabets ++ scripts ++ symbols ++ eastAsian ++ ancient ++ signs ++ notationSigns ++
    pictographs ++ aliases

/-- The character of a listed name. -/
def listed? (name : List Char) : Option Nat :=
  let words := wordsOf name
  blocks.findSome? (·.place? words)

/-- The code point of the character with the given name. -/
def lookup? (name : List Char) : Option Nat :=
  match after? "HANGUL SYLLABLE ".toList name with
  | some sounds => syllable? sounds
  | none =>
    match after? "CJK UNIFIED IDEOGRAPH-".toList name with
    | some digits => (codePoint? digits).filter (inRanges unifiedIdeographs)
    | none =>
      let name := name.map Char.toUpper
      (numbered? name).or (listed? name)

end SlideContract.Text.CharacterName
