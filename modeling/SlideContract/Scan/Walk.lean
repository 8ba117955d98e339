import SlideContract.Scan.State
import SlideContract.Text.Part

/-!
# Walking code

A walk visits the characters of a text that are not in comments, and says of each whether it is
code or part of a string. A comment opens only outside strings: a line comment ends before its line
break, a block comment after the first closing mark behind its opening one, and either at the end
of the text if that does not come.
-/

namespace SlideContract.Scan

/-- The number of characters of a block comment behind its opening mark. -/
def blockLength : List Char → Nat
  | [] => 0
  | '*' :: '/' :: _ => 2
  | _ :: rest => blockLength rest + 1

/-- The number of characters of the comment that a text begins with, zero if it does not. -/
def commentLength : List Char → Nat
  | '/' :: '/' :: rest => (rest.takeWhile (· ≠ '\n')).length + 2
  | '/' :: '*' :: rest => blockLength rest + 2
  | _ => 0

/-- A visited character: its index, whether it is code, and the state behind it. -/
structure Visit where
  index : Nat
  char : Char
  outside : Bool
  after : State
  deriving DecidableEq, Repr

/-- The visit of a character. -/
def visit (s : State) (index : Nat) (c : Char) : Visit :=
  { index, char := c, outside := s.quote.isNone && !isQuote c, after := s.advance c }

/-- The visits of a text that is scanned from the state `s` on and whose first character has the
index `index`. -/
def visits (s : State) (index : Nat) (text : List Char) : List Visit :=
  match text with
  | [] => []
  | c :: rest =>
    let skipped := if s.quote.isNone then commentLength (c :: rest) else 0
    if h : skipped = 0 then visit s index c :: visits (s.advance c) (index + 1) rest
    else visits s (index + skipped) ((c :: rest).drop skipped)
  termination_by text.length
  decreasing_by
    · simp
    · have hpos : 0 < skipped := Nat.pos_of_ne_zero h
      rw [List.length_drop, List.length_cons]
      omega

/-- Every visited index lies in the text. -/
theorem index_of_mem_visits {s : State} {index : Nat} {text : List Char} {v : Visit}
    (h : v ∈ visits s index text) : index ≤ v.index ∧ v.index < index + text.length := by
  fun_induction visits s index text with
  | case1 => simp at h
  | case2 s index c rest skipped h0 ih =>
    rcases List.mem_cons.1 h with rfl | h
    · simp [visit]
    · have := ih h
      simp only [List.length_cons]
      omega
  | case3 s index c rest skipped h0 ih =>
    have := ih h
    rw [List.length_drop, List.length_cons] at this
    simp only [List.length_cons]
    omega

/-- The visits of a text on its own. -/
def walk (text : List Char) : List Visit := visits {} 0 text

/-- The state behind a walk that starts from `s`. -/
def finalState (s : State) (walked : List Visit) : State := (walked.getLast?.map (·.after)).getD s

/-- The indexes of the characters of a text that are code. -/
def codeOffsets (text : List Char) : List Nat := ((walk text).filter (·.outside)).map (·.index)

/-- The text without its comments. -/
def stripComments (text : List Char) : List Char := (walk text).map (·.char)

end SlideContract.Scan
