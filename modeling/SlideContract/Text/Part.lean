/-!
# Parts of a text

Whether a text begins with another, contains it, and what comes between the places where it does.
-/

namespace SlideContract.Text

/-- What is left of a text that begins with `start`, after that beginning. -/
def after? : List Char → List Char → Option (List Char)
  | [], text => some text
  | _ :: _, [] => none
  | a :: start, c :: text => if a = c then after? start text else none

/-- The text begins with `start`. -/
def beginsWith (start text : List Char) : Bool := (after? start text).isSome

/-- `part` stands somewhere in the text. -/
def hasPart (part : List Char) : List Char → Bool
  | [] => part.isEmpty
  | c :: rest => beginsWith part (c :: rest) || hasPart part rest

/-- The pieces of a text between the characters that satisfy `isMark`, behind the unfinished piece
`piece`, given in reverse. -/
def piecesAfter (isMark : Char → Bool) (piece : List Char) : List Char → List (List Char)
  | [] => [piece.reverse]
  | c :: rest =>
    if isMark c then piece.reverse :: piecesAfter isMark [] rest
    else piecesAfter isMark (c :: piece) rest

/-- The pieces of a text between the characters that satisfy `isMark`. -/
def pieces (isMark : Char → Bool) (text : List Char) : List (List Char) :=
  piecesAfter isMark [] text

/-- The number of line breaks in a text. -/
def lineBreaks (text : List Char) : Nat := text.count '\n'

end SlideContract.Text
