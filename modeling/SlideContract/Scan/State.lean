/-!
# Scan states

What a scan of layout source knows at a character: how deep it stands in each kind of bracket, and
whether it stands inside a string. Brackets inside strings do not count.
-/

namespace SlideContract.Scan

/-- The three quotes that open a string. -/
def isQuote (c : Char) : Bool := c == '\x27' || c == '\x22' || c == '\x60'

/-- The quote whose strings may hold line breaks. -/
def spanningQuote : Char := '\x60'

/-- The depths in the three kinds of brackets, the quote of the string being scanned, and whether
the character before was a backslash that escapes the next one. -/
structure State where
  paren : Int := 0
  brace : Int := 0
  bracket : Int := 0
  quote : Option Char := none
  escaped : Bool := false
  deriving DecidableEq, Repr, Inhabited

namespace State

/-- The scan stands inside a string. -/
def inString (s : State) : Bool := s.quote.isSome

/-- No bracket is open. -/
def isLevel (s : State) : Bool := s.paren == 0 && s.brace == 0 && s.bracket == 0

/-- The scan stands outside strings with no bracket open. -/
def atTopLevel (s : State) : Bool := s.quote.isNone && s.isLevel

/-- More brackets of some kind were closed than opened. -/
def unbalanced (s : State) : Bool := s.paren < 0 || s.brace < 0 || s.bracket < 0

/-- The state inside a string of kind `quote` after one more of its characters. A string ends at
its quote and, unless it may span lines, at a line break. -/
def advanceInString (s : State) (quote c : Char) : State :=
  if s.escaped then { s with escaped := false }
  else if c == '\\' then { s with escaped := true }
  else if c == quote then { s with quote := none }
  else if c == '\n' && quote != spanningQuote then { s with quote := none }
  else s

/-- The state outside strings after one more character. -/
def advanceInCode (s : State) (c : Char) : State :=
  if isQuote c then { s with quote := some c }
  else if c == '(' then { s with paren := s.paren + 1 }
  else if c == ')' then { s with paren := s.paren - 1 }
  else if c == '\x7b' then { s with brace := s.brace + 1 }
  else if c == '\x7d' then { s with brace := s.brace - 1 }
  else if c == '[' then { s with bracket := s.bracket + 1 }
  else if c == ']' then { s with bracket := s.bracket - 1 }
  else s

/-- The state after one more character. -/
def advance (s : State) (c : Char) : State :=
  match s.quote with
  | some quote => s.advanceInString quote c
  | none => s.advanceInCode c

/-- The states after each character of a text in turn. -/
def trail (s : State) : List Char → List State
  | [] => []
  | c :: rest => s.advance c :: (s.advance c).trail rest

end State
end SlideContract.Scan
