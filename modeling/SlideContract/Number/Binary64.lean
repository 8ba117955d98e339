/-!
# Binary floating point numbers of 64 bits

A finite value is held exactly, as `± significand · 2 ^ exponent`, so that comparing two values or
comparing one with an integer is exact arithmetic. Values arise by rounding a quotient of naturals
to the nearest representable one, a tie going to the even significand.
-/

namespace SlideContract

/-- A binary64 value. A finite one has its significand below `2 ^ 53` and its exponent at least
`-1074`, and the significand is at least `2 ^ 52` unless the exponent is `-1074`. -/
inductive Binary64 where
  | finite (negative : Bool) (significand : Nat) (exponent : Int)
  | infinite (negative : Bool)
  | nan
  deriving DecidableEq, Repr, Inhabited

namespace Binary64

/-- Zero with its sign. -/
def zero (negative : Bool) : Binary64 := .finite negative 0 (-1074)

/-- `num / den` rounded to the nearest natural, a tie to the even one. -/
def roundDiv (num den : Nat) : Nat :=
  let quotient := num / den
  let twice := 2 * (num % den)
  if twice < den then quotient
  else if den < twice then quotient + 1
  else quotient + quotient % 2

/-- `num · base ^ power / den`, written as a quotient of naturals. -/
def scaled (base num den : Nat) (power : Int) : Nat × Nat :=
  if 0 ≤ power then (num * base.pow power.toNat, den) else (num, den * base.pow (-power).toNat)

/-- The greatest `e` with `2 ^ e ≤ num / den`, for positive `num` and `den`. -/
def floorLog2 (num den : Nat) : Int :=
  let guess : Int := (num.log2 : Int) - den.log2
  let (n, d) := scaled 2 num den (-guess)
  if d ≤ n then guess else guess - 1

/-- The binary64 value nearest to `± num / den`, a tie to the even significand; what rounds to
`2 ^ 1024` or more is infinite. -/
def ofRatio (negative : Bool) (num den : Nat) : Binary64 :=
  if num = 0 then zero negative else
  let exponent := max (floorLog2 num den - 52) (-1074)
  let (n, d) := scaled 2 num den (-exponent)
  let significand := roundDiv n d
  let (significand, exponent) :=
    if significand = Nat.pow 2 53 then (Nat.pow 2 52, exponent + 1) else (significand, exponent)
  if 971 < exponent then .infinite negative else .finite negative significand exponent

/-- The value nearest to an integer. -/
def ofInt (i : Int) : Binary64 := ofRatio (i < 0) i.natAbs 1

/-- The value nearest to `± digits · 10 ^ exponent`. An exponent so large or so small that the
value is infinite or zero is not raised to. -/
def ofDecimal (negative : Bool) (digits : Nat) (exponent : Int) : Binary64 :=
  if digits = 0 then zero negative else
  let magnitude : Int := (Nat.toDigits 10 digits).length + exponent
  if 310 < magnitude then .infinite negative
  else if magnitude < -330 then zero negative
  else
    let (n, d) := scaled 10 digits 1 exponent
    ofRatio negative n d

/-- A finite value as a quotient of an integer and a natural. -/
def ratio? : Binary64 → Option (Int × Nat)
  | .finite negative m e =>
    let (n, d) := scaled 2 m 1 e
    some (if negative then -(n : Int) else n, d)
  | _ => none

/-- The integer equal to a finite value, if there is one. -/
def toInt? (x : Binary64) : Option Int :=
  match x.ratio? with
  | some (n, d) => if n % d = 0 then some (n / d) else none
  | none => none

/-- The value is zero. -/
def isZero : Binary64 → Bool
  | .finite _ m _ => m == 0
  | _ => false

end Binary64
end SlideContract
