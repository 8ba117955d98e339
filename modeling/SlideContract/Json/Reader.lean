import SlideContract.Json.Basic
import SlideContract.Text.Part

/-!
# Reading JSON

One value is read from a text. `NaN` and the two infinities are values, a number with a fraction or
an exponent is a binary64 value and any other an unbounded integer, and of members with one name
the first gives the place and the last the value. A text that is no value is refused at the place
where reading stopped.

Each reader returns what is left of its text together with the fact that this is shorter, which is
what its callers recurse on.
-/

namespace SlideContract.Json

/-- What is wrong where reading stopped. -/
inductive Problem where
  | byteOrderMark
  | value
  | extraData
  | memberName
  | colon
  | comma
  | unterminated
  | control
  | escape
  | unicodeEscape
  deriving DecidableEq, Repr

/-- The problem in words. -/
def Problem.text : Problem → String
  | .byteOrderMark => "Unexpected UTF-8 BOM (decode using utf-8-sig)"
  | .value => "Expecting value"
  | .extraData => "Extra data"
  | .memberName => "Expecting property name enclosed in double quotes"
  | .colon => "Expecting ':' delimiter"
  | .comma => "Expecting ',' delimiter"
  | .unterminated => "Unterminated string starting at"
  | .control => "Invalid control character at"
  | .escape => "Invalid \\escape"
  | .unicodeEscape => "Invalid \\uXXXX escape"

/-- Why reading stopped: a problem before the last `left` characters, or an integer that is too
long. -/
inductive Stop where
  | malformed (problem : Problem) (left : Nat)
  | digits (fault : TooManyDigits)

/-- What is left of a text once some of it is read. -/
abbrev Rest (text : List Char) := { rest : List Char // rest.length < text.length }

/-- The result of reading the beginning of a text. -/
abbrev Reading (α : Type) (text : List Char) := Except Stop (α × Rest text)

/-- What is left of the end of a longer text. -/
def Rest.within {text longer : List Char} (rest : Rest text)
    (h : text.length ≤ longer.length) : Rest longer :=
  ⟨rest.1, Nat.lt_of_lt_of_le rest.2 h⟩

/-- Reading stops before what is left of the text. -/
def stopAt {α : Type} (problem : Problem) (left : Nat) : Except Stop α :=
  .error (.malformed problem left)

/-- A blank between the parts of a document. -/
def isSpace (c : Char) : Bool := c == ' ' || c == '\t' || c == '\n' || c == '\r'

/-- The text from its first character that is no blank. -/
def skip (text : List Char) : List Char := text.dropWhile isSpace

theorem length_skip_le (text : List Char) : (skip text).length ≤ text.length :=
  List.Sublist.length_le (List.dropWhile_sublist _)

theorem length_lt_of_skip {text rest : List Char} {c : Char} (h : skip text = c :: rest) :
    rest.length < text.length := by
  have hle := length_skip_le text
  rw [h] at hle
  exact hle

theorem length_skip_lt_cons (c : Char) (text : List Char) :
    (skip text).length < (c :: text).length :=
  Nat.lt_succ_of_le (length_skip_le text)

/-- The value of a hexadecimal digit. -/
def hexValue? (c : Char) : Option Nat :=
  let n := c.toNat
  if 0x30 ≤ n && n ≤ 0x39 then some (n - 0x30)
  else if 0x61 ≤ n && n ≤ 0x66 then some (n - 0x57)
  else if 0x41 ≤ n && n ≤ 0x46 then some (n - 0x37)
  else none

/-- The sixteen bit unit that four hexadecimal digits write. -/
def unit? : List Char → Option Nat
  | [a, b, c, d] => do
    let a ← hexValue? a
    let b ← hexValue? b
    let c ← hexValue? c
    let d ← hexValue? d
    return ((a * 16 + b) * 16 + c) * 16 + d
  | _ => none

/-- The character of an escape of one letter. -/
def escaped? : Char → Option Char
  | '\x22' => some '\x22'
  | '\\' => some '\\'
  | '/' => some '/'
  | 'b' => some '\x08'
  | 'f' => some '\x0c'
  | 'n' => some '\n'
  | 'r' => some '\r'
  | 't' => some '\t'
  | _ => none

/-- The character that the unit `high` and the escape after it write, if they are a pair of
surrogates; else the unit alone, a surrogate becoming the replacement character. At least one
character must follow the second escape. -/
def joinUnits (high : Nat) (text : List Char) : Except Stop (Char × Nat) :=
  let alone : Char := if 0xd800 ≤ high && high < 0xe000 then '\ufffd' else Char.ofNat high
  if 0xd800 ≤ high && high < 0xdc00 && 6 < text.length && Text.beginsWith ['\\', 'u'] text then
    match unit? ((text.drop 2).take 4) with
    | none => stopAt .unicodeEscape (text.length - 1)
    | some low =>
      if 0xdc00 ≤ low && low < 0xe000 then
        .ok (Char.ofNat (0x10000 + (high - 0xd800) * 0x400 + (low - 0xdc00)), 6)
      else .ok (alone, 0)
  else .ok (alone, 0)

/-- The character that an escape writes, given the text after the backslash. The string it stands
in opens before the last `opening` characters. -/
def readEscape (opening : Nat) (text : List Char) : Reading Char text :=
  match text with
  | [] => stopAt .unterminated opening
  | c :: rest =>
    if c = 'u' then
      if rest.length ≤ 4 then stopAt .unicodeEscape (rest.length + 1) else
      match unit? (rest.take 4) with
      | none => stopAt .unicodeEscape (rest.length + 1)
      | some high =>
        (joinUnits high (rest.drop 4)).map fun (c, count) =>
          (c, ⟨rest.drop (4 + count), by simp only [List.length_drop, List.length_cons]; omega⟩)
    else
      match escaped? c with
      | some e => .ok (e, ⟨rest, Nat.lt_succ_self _⟩)
      | none => stopAt .escape (rest.length + 2)

/-- The characters of a string up to its closing quote. -/
def readString (opening : Nat) (text : List Char) : Reading (List Char) text :=
  match text with
  | [] => stopAt .unterminated opening
  | c :: rest =>
    if c = '\x22' then .ok ([], ⟨rest, Nat.lt_succ_self _⟩)
    else if c = '\\' then
      match readEscape opening rest with
      | .error stop => .error stop
      | .ok (e, ⟨after, h⟩) =>
        (readString opening after).map fun (cs, left) =>
          (e :: cs, left.within (Nat.le_succ_of_le (Nat.le_of_lt h)))
    else if c.toNat < 0x20 then stopAt .control (rest.length + 1)
    else (readString opening rest).map fun (cs, left) => (c :: cs, left.within (Nat.le_succ _))
  termination_by text.length

/-- The leading run of ASCII digits and what follows it. -/
def spanDigits (text : List Char) : List Char × List Char := text.span Char.isDigit

/-- The digits after a point and what follows them; a point alone is not read. -/
def fraction? : List Char → Option (List Char × List Char)
  | '.' :: rest =>
    let (digits, after) := spanDigits rest
    if digits.isEmpty then none else some (digits, after)
  | _ => none

/-- The exponent after its mark and what follows it; a mark without digits is not read. -/
def exponent? : List Char → Option (Int × List Char)
  | c :: rest =>
    if c = 'e' ∨ c = 'E' then
      let (negative, rest) :=
        match rest with
        | '-' :: more => (true, more)
        | '+' :: more => (false, more)
        | _ => (false, rest)
      let (digits, after) := spanDigits rest
      if digits.isEmpty then none
      else
        let n : Int := Text.natOfDigits digits
        some (if negative then -n else n, after)
    else none
  | [] => none

/-- The digits before the point and what follows them: a zero, or a run without a leading zero. -/
def whole? : List Char → Option (List Char × List Char)
  | '0' :: rest => some (['0'], rest)
  | text =>
    let (digits, after) := spanDigits text
    if digits.isEmpty then none else some (digits, after)

/-- The number at the beginning of a text, without its sign. -/
def numeral? (negative : Bool) (text : List Char) :
    Option (Except TooManyDigits Number × List Char) :=
  match whole? text with
  | none => none
  | some (whole, after) =>
    match fraction? after, exponent? ((fraction? after).elim after (·.2)) with
    | none, none => some ((readInt negative whole).map .int, after)
    | fraction, exponent =>
      let digits := fraction.elim [] (·.1)
      let power := exponent.elim 0 (·.1)
      let after := exponent.elim (fraction.elim after (·.2)) (·.2)
      some (.ok (.real (readReal negative whole digits power)), after)

/-- The constants, with the values they write. -/
def constants : List (String × Json) :=
  [("null", .null), ("true", .bool true), ("false", .bool false),
   ("NaN", .num (.real .nan)), ("Infinity", .num (.real (.infinite false))),
   ("-Infinity", .num (.real (.infinite true)))]

/-- The constant at the beginning of a text. -/
def constant? (text : List Char) : Option (Json × List Char) :=
  constants.findSome? fun (name, value) =>
    (Text.after? name.toList text).map fun rest => (value, rest)

/-- A constant or a number at the beginning of a text. -/
def readScalar (text : List Char) : Reading Json text :=
  let finish (value : Json) (rest : List Char) : Reading Json text :=
    if h : rest.length < text.length then .ok (value, ⟨rest, h⟩) else stopAt .value text.length
  match constant? text with
  | some (value, rest) => finish value rest
  | none =>
    let found :=
      match text with
      | '-' :: rest => numeral? true rest
      | _ => numeral? false text
    match found with
    | some (.ok n, rest) => finish (.num n) rest
    | some (.error fault, _) => .error (.digits fault)
    | none => stopAt .value text.length

mutual

/-- The value at the beginning of a text. -/
def readValue (text : List Char) : Reading Json text :=
  match text with
  | [] => stopAt .value 0
  | c :: rest =>
    if c = '\x22' then
      (readString (rest.length + 1) rest).map fun (cs, left) =>
        (.str (String.ofList cs), left.within (Nat.le_succ _))
    else if c = '[' then
      match h : skip rest with
      | ']' :: after =>
        .ok (.arr [], ⟨after, Nat.lt_succ_of_lt (length_lt_of_skip h)⟩)
      | _ =>
        (readItems (skip rest)).map fun (items, left) =>
          (.arr items, left.within (Nat.le_of_lt (length_skip_lt_cons c rest)))
    else if c = '\x7b' then
      match h : skip rest with
      | '\x7d' :: after =>
        .ok (.obj [], ⟨after, Nat.lt_succ_of_lt (length_lt_of_skip h)⟩)
      | _ =>
        (readMembers (skip rest)).map fun (members, left) =>
          (.obj (Entries.ofPairs members),
            left.within (Nat.le_of_lt (length_skip_lt_cons c rest)))
    else readScalar (c :: rest)
  termination_by (text.length, 0)
  decreasing_by all_goals exact Prod.Lex.left _ _ (length_skip_lt_cons c rest)

/-- The items of a list up to its end. -/
def readItems (text : List Char) : Reading (List Json) text :=
  match readValue text with
  | .error stop => .error stop
  | .ok (item, ⟨left, hl⟩) =>
    match h : skip left with
    | [] => stopAt .comma 0
    | c :: rest =>
      have hs := length_lt_of_skip h
      if c = ']' then .ok ([item], ⟨rest, by omega⟩)
      else if c = ',' then
        have hr := length_skip_le rest
        (readItems (skip rest)).map fun (items, left) =>
          (item :: items, left.within (by omega))
      else stopAt .comma (rest.length + 1)
  termination_by (text.length, 1)

/-- The members of an object up to its end, as they are written. -/
def readMembers (text : List Char) : Reading (List (String × Json)) text :=
  match text with
  | [] => stopAt .memberName 0
  | quote :: rest =>
    if quote ≠ '\x22' then stopAt .memberName (rest.length + 1) else
    match readString (rest.length + 1) rest with
    | .error stop => .error stop
    | .ok (name, ⟨left, hl⟩) =>
      match h : skip left with
      | [] => stopAt .colon 0
      | colon :: more =>
        if colon ≠ ':' then stopAt .colon (more.length + 1) else
        have hm := length_skip_le more
        have hc := length_lt_of_skip h
        match readValue (skip more) with
        | .error stop => .error stop
        | .ok (value, ⟨left, hv⟩) =>
          match h : skip left with
          | [] => stopAt .comma 0
          | c :: after =>
            have hs := length_lt_of_skip h
            if c = '\x7d' then
              .ok ([(String.ofList name, value)], ⟨after, by rw [List.length_cons]; omega⟩)
            else if c = ',' then
              have ha := length_skip_le after
              (readMembers (skip after)).map fun (members, left) =>
                ((String.ofList name, value) :: members,
                  left.within (by rw [List.length_cons]; omega))
            else stopAt .comma (after.length + 1)
  termination_by (text.length, 1)

end

/-- Why a text is not a JSON value: a problem at a position, or an integer that is too long. -/
inductive Fault where
  | malformed (problem : Problem) (position : Nat)
  | digits (fault : TooManyDigits)
  deriving DecidableEq, Repr

/-- The fault of a text at which reading stopped. -/
def Stop.toFault (text : List Char) : Stop → Fault
  | .malformed problem left => .malformed problem (text.length - left)
  | .digits fault => .digits fault

/-- The value that a text writes, blanks at its two ends aside. -/
def read (text : List Char) : Except Fault Json :=
  match text with
  | '\ufeff' :: _ => .error (.malformed .byteOrderMark 0)
  | _ =>
    match readValue (skip text) with
    | .error stop => .error (stop.toFault text)
    | .ok (value, left) =>
      let rest := skip left.1
      if rest.isEmpty then .ok value
      else .error (.malformed .extraData (text.length - rest.length))

/-- The line of a position, from one. -/
def line (text : List Char) (position : Nat) : Nat := Text.lineBreaks (text.take position) + 1

/-- The column of a position in its line, from one. -/
def column (text : List Char) (position : Nat) : Nat :=
  ((text.take position).reverse.takeWhile (· ≠ '\n')).length + 1

end SlideContract.Json
