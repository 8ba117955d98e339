import SlideContract.Number.Binary64

/-!
# Shortest decimals

The text of a binary64 value has the fewest digits that read back as the same value, and of those
the ones nearest to it. It is positional from `10 ^ -4` up to `10 ^ 16` and has an exponent of at
least two digits outside of that; a whole number keeps `.0`.
-/

namespace SlideContract
namespace Binary64

/-- The numbers that round to `significand · 2 ^ exponent` lie between these two, the ends among
them when the significand is even. Both are in units of `2 ^ (exponent - 2)`, as is the value. -/
def interval (significand : Nat) (exponent : Int) : Nat × Nat :=
  let value := 4 * significand
  let below := if significand = Nat.pow 2 52 ∧ -1074 < exponent then value - 1 else value - 2
  (below, value + 2)

/-- The decimal `digits · 10 ^ place` rounds to the value `significand · 2 ^ exponent`. -/
def roundsBack (significand : Nat) (exponent : Int) (digits : Nat) (place : Int) : Bool :=
  let (low, high) := interval significand exponent
  let (n, d) := scaled 2 1 1 (exponent - 2)
  let (p, q) := scaled 10 1 1 place
  let decimal := digits * p * d
  let low := low * n * q
  let high := high * n * q
  if significand % 2 = 0 then low ≤ decimal && decimal ≤ high else low < decimal && decimal < high

/-- The digits of the greatest multiple of `10 ^ place` that is not above `num / den`. -/
def gridFloor (num den : Nat) (place : Int) : Nat :=
  let (n, d) := scaled 10 num den (-place)
  n / d

/-- The distance from `digits · 10 ^ place` to `num / den`, in units of `10 ^ place / den` or of
`1 / (den · 10 ^ -place)`. -/
def gridDistance (num den : Nat) (digits : Nat) (place : Int) : Nat :=
  let (n, d) := scaled 10 num den (-place)
  (n - digits * d) + (digits * d - n)

/-- The nearest decimal on the grid of multiples of `10 ^ place` that reads back, if one does. -/
def onGrid? (significand : Nat) (exponent : Int) (place : Int) : Option Nat :=
  let (num, den) := scaled 2 significand 1 exponent
  let below := gridFloor num den place
  let lower := roundsBack significand exponent below place
  let upper := roundsBack significand exponent (below + 1) place
  if lower && upper then
    let down := gridDistance num den below place
    let up := gridDistance num den (below + 1) place
    if down < up || (down == up && below % 2 == 0) then some below else some (below + 1)
  else if lower then some below
  else if upper then some (below + 1)
  else none

/-- The first grid, from `place` down and at most `tries` of them, that holds a decimal which reads
back: its digits and its place. -/
def shortestFrom (significand : Nat) (exponent : Int) : Nat → Int → Nat × Int
  | 0, place => (0, place)
  | tries + 1, place =>
    match onGrid? significand exponent place with
    | some digits => (digits, place)
    | none => shortestFrom significand exponent tries (place - 1)

/-- The shortest decimal `digits · 10 ^ place` of a positive value. No value has more than
seventeen digits, and none is above `10 ^ 309`, which bounds the search from the value's own
magnitude. -/
def shortest (significand : Nat) (exponent : Int) : Nat × Int :=
  let (num, den) := scaled 2 significand 1 exponent
  let integral := num / den
  let top : Int :=
    if integral ≠ 0 then (Nat.toDigits 10 integral).length
    else 1 - (Nat.toDigits 10 (den / num)).length
  shortestFrom significand exponent 20 top

/-- An exponent: its sign and at least two digits. -/
def exponentText (e : Int) : String :=
  let digits := toString e.natAbs
  (if e < 0 then "-" else "+") ++ (if digits.length < 2 then "0" ++ digits else digits)

/-- The decimal `digits · 10 ^ place`, positional or with an exponent. -/
def decimalText (digits : Nat) (place : Int) : String :=
  let ds := Nat.toDigits 10 digits
  let point : Int := ds.length + place
  let zeros (n : Int) : List Char := List.replicate n.toNat '0'
  String.ofList <|
    if -4 < point ∧ point ≤ 16 then
      if point ≤ 0 then '0' :: '.' :: zeros (-point) ++ ds
      else if 0 ≤ place then ds ++ zeros place ++ ['.', '0']
      else ds.take point.toNat ++ '.' :: ds.drop point.toNat
    else
      let fraction := ds.drop 1
      ds.take 1 ++ (if fraction.isEmpty then [] else '.' :: fraction) ++
        'e' :: (exponentText (point - 1)).toList

/-- The text of a value, given the texts of infinity and of what is not a number. -/
def text (infinity notNumber : String) : Binary64 → String
  | .finite negative m e =>
    let sign := if negative then "-" else ""
    if m = 0 then sign ++ "0.0" else
    let (digits, place) := shortest m e
    sign ++ decimalText digits place
  | .infinite negative => (if negative then "-" else "") ++ infinity
  | .nan => notNumber

end Binary64
end SlideContract
