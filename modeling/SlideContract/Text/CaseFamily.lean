import SlideContract.Text.LowerCase

/-!
# Letters that differ in case only

Two letters are of one family if their lower cases are the same, or are two small letters that
share a capital, such as the two small sigmas or the long and the round s.
-/

namespace SlideContract.Text

/-- The sets of small letters that share a capital. -/
def sharedCapitals : List (List Nat) :=
  [[0x69, 0x131], [0x73, 0x17f], [0xb5, 0x3bc], [0x345, 0x3b9, 0x1fbe], [0x390, 0x1fd3],
   [0x3b0, 0x1fe3], [0x3b2, 0x3d0], [0x3b5, 0x3f5], [0x3b8, 0x3d1], [0x3ba, 0x3f0], [0x3c0, 0x3d6],
   [0x3c1, 0x3f1], [0x3c2, 0x3c3], [0x3c6, 0x3d5], [0x432, 0x1c80], [0x434, 0x1c81],
   [0x43e, 0x1c82], [0x441, 0x1c83], [0x442, 0x1c84, 0x1c85], [0x44a, 0x1c86], [0x463, 0x1c87],
   [0x1c88, 0xa64b], [0x1e61, 0x1e9b], [0xfb05, 0xfb06]]

/-- The lower case of a code point on its own; of the dotted capital I, which has two characters,
the first. -/
def lowerCode (n : Nat) : Nat := if n = 0x130 then 0x69 else CaseRun.shiftAll lowerRuns n

/-- The small letters that share a capital with the given one, or that one alone. -/
def smallLetters (n : Nat) : List Nat := (sharedCapitals.find? (·.contains n)).getD [n]

/-- The code points that differ from the given one in case only, itself among them. -/
def family (n : Nat) : List Nat :=
  (smallLetters (lowerCode n)).flatMap fun small =>
    small :: (if small = 0x69 then [0x130] else []) ++ CaseRun.sources lowerRuns small

end SlideContract.Text
