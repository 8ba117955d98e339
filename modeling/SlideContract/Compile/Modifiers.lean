import SlideContract.Compile.Kind
import SlideContract.Number.Basic
import SlideContract.Scan.Split
import SlideContract.TypeTree

/-!
# Modifiers

What the calls behind a constructor say about a type: the bounds that their first arguments set,
and whether the type is optional. A later call overrides an earlier one, and a call whose argument
is no number of the right form sets nothing.
-/

namespace SlideContract.Compile

/-- The first argument of a call, empty if there is none. -/
def firstArgument (args : Option (List Char)) : List Char :=
  ((Scan.splitTopLevel (args.getD []) ',').head?).getD []

/-- The natural that a text writes with decimal digits alone. -/
def naturalArgument (text : List Char) : Except TooManyDigits (Option Nat) :=
  if !text.isEmpty && text.all Text.isDigit then (readNat text).map some else .ok none

/-- A numeral in source text: its sign, the digits before the point, the point with the digits
behind it, and the exponent. -/
structure Numeral where
  negative : Bool
  whole : List Char
  fraction : Option (List Char)
  exponent : Option Int

/-- A sign at the beginning of a text, and what follows it. -/
def sign (text : List Char) : Bool × List Char :=
  match text with
  | '-' :: rest => (true, rest)
  | '+' :: rest => (false, rest)
  | _ => (false, text)

/-- The exponent that a whole text writes, if it is empty or a marked exponent. -/
def exponentPart? (text : List Char) : Option (Option Int) :=
  match text with
  | [] => some none
  | mark :: rest =>
    if mark = 'e' ∨ mark = 'E' then
      let (negative, digits) := sign rest
      if !digits.isEmpty && digits.all Text.isDigit then
        let n : Int := Text.natOfDigits digits
        some (some (if negative then -n else n))
      else none
    else none

/-- The numeral that a whole text writes. -/
def numeral? (text : List Char) : Option Numeral := do
  let (negative, text) := sign text
  let whole := text.takeWhile Text.isDigit
  let (fraction, rest) :=
    match text.dropWhile Text.isDigit with
    | '.' :: rest => (some (rest.takeWhile Text.isDigit), rest.dropWhile Text.isDigit)
    | rest => (none, rest)
  if whole.isEmpty && (fraction.getD []).isEmpty then none else
  let exponent ← exponentPart? rest
  return { negative, whole, fraction, exponent }

/-- The number of a numeral: a binary64 value if it has a point; if it has an exponent alone, the
integer equal to that value, if there is one; else an unbounded integer. -/
def Numeral.number (n : Numeral) : Except TooManyDigits Number :=
  let real := readReal n.negative n.whole (n.fraction.getD []) (n.exponent.getD 0)
  if n.fraction.isSome then .ok (.real real)
  else if n.exponent.isSome then
    match real.toInt? with
    | some i => .ok (.int i)
    | none => .ok (.real real)
  else (readInt n.negative n.whole).map .int

/-- The number that a text writes. -/
def numberArgument (text : List Char) : Except TooManyDigits (Option Number) :=
  match numeral? text with
  | some n => n.number.map some
  | none => .ok none

/-- The bounds with the natural that a call sets. -/
def setLength (b : Bounds) (name : String) (n : Nat) : Bounds :=
  let limit : Option Number := some (.int n)
  match name with
  | "min" => { b with min := limit }
  | "max" => { b with max := limit }
  | "length" => { min := limit, max := limit }
  | _ => b

/-- The bounds with the number that a call sets. -/
def setRange (b : Bounds) (name : String) (n : Number) : Bounds :=
  match name with
  | "min" | "gte" => { b with min := some n }
  | "max" | "lte" => { b with max := some n }
  | _ => b

/-- The bounds of a string's length after one more modifier. -/
def lengthStep (b : Bounds) (call : Call) : Except TooManyDigits Bounds :=
  if call.isCalled then do
    match ← naturalArgument (firstArgument call.args) with
    | some n => return setLength b call.name n
    | none => return b
  else .ok b

/-- The bounds of a number after one more modifier. -/
def rangeStep (b : Bounds) (call : Call) : Except TooManyDigits Bounds :=
  if call.isCalled then do
    match ← numberArgument (firstArgument call.args) with
    | some n => return setRange b call.name n
    | none => return b
  else .ok b

/-- The bounds of an array's length after one more modifier. -/
def sizeStep (b : Bounds) (call : Call) : Except TooManyDigits Bounds :=
  if call.name == "nonempty" then .ok { b with min := some (.int 1) } else lengthStep b call

/-- The bounds that modifiers set on the length of a string. -/
def lengthBounds (modifiers : List Call) : Except TooManyDigits Bounds :=
  modifiers.foldlM lengthStep {}

/-- The bounds that modifiers set on a number. -/
def rangeBounds (modifiers : List Call) : Except TooManyDigits Bounds :=
  modifiers.foldlM rangeStep {}

/-- The bounds that modifiers set on the length of an array. -/
def sizeBounds (modifiers : List Call) : Except TooManyDigits Bounds :=
  modifiers.foldlM sizeStep {}

/-- The call marks its type as optional. -/
def marksOptional (call : Call) : Bool :=
  call.isCalled && (call.name == "optional" || call.name == "nullish")

/-- The text ends in a call of `optional` without arguments, blanks allowed between its parts. -/
def endsOptional (text : List Char) : Bool :=
  let expect (part : List Char) (reversed : List Char) : Option (List Char) :=
    (Text.after? part reversed).map Text.dropBlanks
  ((expect [] text.reverse >>= expect [')'] >>= expect ['('] >>=
    expect "optional".toList.reverse) >>= expect ['.']).isSome

/-- The expression is marked as optional on its outer chain; what is no clean chain counts by its
end. -/
def isOptional (settings : Settings) (text : List Char) : Bool :=
  let text := Text.trim (Chain.withoutDefaults text)
  match Chain.parse text with
  | some calls => (calls.drop (Kind.headLength settings calls)).any marksOptional
  | none => endsOptional text

end SlideContract.Compile
