import SlideContract.Text.Quoted

/-!
# UTF-8 text

Reading bytes as UTF-8. A sequence that is not well formed is refused at its first byte, with the
reason and the number of bytes that belong to the refused piece. Files are read with every kind of
line end turned into a line feed.
-/

namespace SlideContract.Text

/-- Why a byte sequence is not UTF-8. -/
inductive Utf8Reason where
  /-- No character starts with this byte. -/
  | badStart
  /-- A character is cut short by a byte that cannot continue it. -/
  | badContinuation
  /-- The text ends inside a character. -/
  | truncated
  deriving DecidableEq, Repr

/-- The refused piece: where it starts, its first byte and how many bytes it spans. -/
structure Utf8Fault where
  reason : Utf8Reason
  position : Nat
  byte : Nat
  count : Nat
  deriving DecidableEq, Repr

namespace Utf8Fault

/-- The reason in words. -/
def reasonText : Utf8Reason → String
  | .badStart => "invalid start byte"
  | .badContinuation => "invalid continuation byte"
  | .truncated => "unexpected end of data"

/-- The message shown for a file that is not UTF-8. -/
def message (f : Utf8Fault) : String :=
  if f.count = 1 then
    "'utf-8' codec can't decode byte 0x" ++ String.ofList (hex 2 f.byte) ++ " in position " ++
      toString f.position ++ ": " ++ reasonText f.reason
  else
    "'utf-8' codec can't decode bytes in position " ++ toString f.position ++ "-" ++
      toString (f.position + f.count - 1) ++ ": " ++ reasonText f.reason

end Utf8Fault

/-- The bytes that may follow the byte `first` of a character: the least and the greatest. -/
def secondByteRange (first : Nat) : Nat × Nat :=
  if first = 0xe0 then (0xa0, 0xbf)
  else if first = 0xed then (0x80, 0x9f)
  else if first = 0xf0 then (0x90, 0xbf)
  else if first = 0xf4 then (0x80, 0x8f)
  else (0x80, 0xbf)

/-- `second` may follow `first`. -/
def continues (first second : Nat) : Bool :=
  (secondByteRange first).1 ≤ second && second ≤ (secondByteRange first).2

/-- A byte that may stand third or fourth in a character. -/
def isTail (byte : Nat) : Bool := 0x80 ≤ byte && byte ≤ 0xbf

/-- The characters that bytes from `position` on write. -/
def decodeUtf8From (position : Nat) : List UInt8 → Except Utf8Fault (List Char)
  | [] => .ok []
  | a :: rest =>
    let first := a.toNat
    let fault (reason : Utf8Reason) (count : Nat) : Except Utf8Fault (List Char) :=
      .error ⟨reason, position, first, count⟩
    if first < 0x80 then
      (decodeUtf8From (position + 1) rest).map (Char.ofNat first :: ·)
    else if first < 0xc2 || 0xf4 < first then fault .badStart 1
    else match rest with
      | [] => fault .truncated 1
      | b :: rest =>
        let second := b.toNat
        if !continues first second then fault .badContinuation 1
        else if first < 0xe0 then
          (decodeUtf8From (position + 2) rest).map
            (Char.ofNat ((first - 0xc0) * 64 + (second - 0x80)) :: ·)
        else match rest with
          | [] => fault .truncated 2
          | c :: rest =>
            let third := c.toNat
            if !isTail third then fault .badContinuation 2
            else if first < 0xf0 then
              (decodeUtf8From (position + 3) rest).map
                (Char.ofNat ((first - 0xe0) * 4096 + (second - 0x80) * 64 + (third - 0x80)) :: ·)
            else match rest with
              | [] => fault .truncated 3
              | d :: rest =>
                let fourth := d.toNat
                if !isTail fourth then fault .badContinuation 3
                else
                  (decodeUtf8From (position + 4) rest).map
                    (Char.ofNat ((first - 0xf0) * 262144 + (second - 0x80) * 4096 +
                      (third - 0x80) * 64 + (fourth - 0x80)) :: ·)

/-- The characters that bytes write. -/
def decodeUtf8 (bytes : List UInt8) : Except Utf8Fault (List Char) := decodeUtf8From 0 bytes

/-- The text with `\r\n` and a lone `\r` turned into `\n`. -/
def plainLineEnds : List Char → List Char
  | [] => []
  | '\r' :: '\n' :: rest => '\n' :: plainLineEnds rest
  | '\r' :: rest => '\n' :: plainLineEnds rest
  | c :: rest => c :: plainLineEnds rest

end SlideContract.Text
