import SlideContract.Number.Shortest
import SlideContract.Text.DecimalDigit

/-!
# Numbers

A number is an unbounded integer or a binary64 value, and remembers which. Two numbers compare by
their exact values, whichever kind they are; what is not a number compares with nothing.
-/

namespace SlideContract

/-- An integer, or a binary64 value. -/
inductive Number where
  | int (value : Int)
  | real (value : Binary64)
  deriving DecidableEq, Repr, Inhabited

/-- An integer written with more digits than are read. -/
structure TooManyDigits where
  count : Nat
  deriving DecidableEq, Repr

/-- The greatest number of digits of an integer that is read. -/
def digitLimit : Nat := 4300

/-- The message shown for an integer with too many digits. -/
def TooManyDigits.message (f : TooManyDigits) : String :=
  "Exceeds the limit (" ++ toString digitLimit ++
    " digits) for integer string conversion: value has " ++ toString f.count ++
    " digits; use sys.set_int_max_str_digits() to increase the limit"

/-- The natural that a run of digits writes, unless the run is too long. -/
def readNat (digits : List Char) : Except TooManyDigits Nat :=
  if digits.length ≤ digitLimit then .ok (Text.natOfDigits digits) else .error ⟨digits.length⟩

/-- The integer that a sign and a run of digits write, unless the run is too long. -/
def readInt (negative : Bool) (digits : List Char) : Except TooManyDigits Int :=
  (readNat digits).map fun n => if negative then -(n : Int) else n

/-- The binary64 value nearest to `± whole.fraction · 10 ^ exponent`. -/
def readReal (negative : Bool) (whole fraction : List Char) (exponent : Int) : Binary64 :=
  .ofDecimal negative (Text.natOfDigits (whole ++ fraction)) (exponent - fraction.length)

namespace Number

/-- A number as a quotient of an integer and a natural; none for infinity and what is no number. -/
def ratio? : Number → Option (Int × Nat)
  | .int i => some (i, 1)
  | .real x => x.ratio?

/-- The order of two numbers by their exact values; none if one is not a number. -/
def order? : Number → Number → Option Ordering
  | .real .nan, _ => none
  | _, .real .nan => none
  | .real (.infinite a), .real (.infinite b) => some (compare b a)
  | .real (.infinite a), _ => some (if a then .lt else .gt)
  | _, .real (.infinite b) => some (if b then .gt else .lt)
  | a, b =>
    match a.ratio?, b.ratio? with
    | some (m, p), some (n, q) => some (compare (m * q) (n * p))
    | _, _ => none

/-- The first number is less than the second. -/
def lt (a b : Number) : Bool := order? a b == some .lt

/-- The first number is at most the second. -/
def le (a b : Number) : Bool := order? a b == some .lt || order? a b == some .eq

/-- The two numbers have the same value. -/
def same (a b : Number) : Bool := order? a b == some .eq

/-- The integer equal to a number, if there is one. -/
def toInt? : Number → Option Int
  | .int i => some i
  | .real x => x.toInt?

/-- The number is zero. -/
def isZero : Number → Bool
  | .int i => i == 0
  | .real x => x.isZero

/-- The text of a number in a message. -/
def display : Number → String
  | .int i => toString i
  | .real x => x.text "inf" "nan"

/-- The text of a number in a document. -/
def written : Number → String
  | .int i => toString i
  | .real x => x.text "Infinity" "NaN"

end Number
end SlideContract
