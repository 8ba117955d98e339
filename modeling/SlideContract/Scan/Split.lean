import SlideContract.Scan.Walk
import SlideContract.Text.Blank

/-!
# Splitting at the top level

A list written in source text is cut at the separators that are code and stand in no bracket. The
parts lose their comments and the blanks at their ends, and empty parts are dropped.
-/

namespace SlideContract.Scan

/-- The indexes at which a text is cut. -/
def cuts (separator : Char) (text : List Char) : List Nat :=
  ((walk text).filter fun v => v.outside && v.char == separator && v.after.atTopLevel).map (·.index)

/-- The pieces of a text, whose first character has the index `start`, between the cut indexes. -/
def pieces (start : Nat) (text : List Char) : List Nat → List (List Char)
  | [] => [text]
  | cut :: rest =>
    text.take (cut - start) :: pieces (cut + 1) (text.drop (cut + 1 - start)) rest

/-- A piece without comments and blanks at its ends. -/
def cleaned (piece : List Char) : List Char := Text.trim (stripComments piece)

/-- The parts of a text between its separators at the top level. -/
def splitTopLevel (text : List Char) (separator : Char) : List (List Char) :=
  ((pieces 0 text (cuts separator text)).map cleaned).filter fun part => !part.isEmpty

/-- The parts of a text that is not cut at all. -/
def uncut (text : List Char) : List (List Char) :=
  [cleaned text].filter fun part => !part.isEmpty

end SlideContract.Scan
