import SlideContract.Scan.State
import SlideContract.Text.Blank

/-!
# String literals

The content of a literal between two equal quotes, with every escaped character standing for
itself. A backslash before a line break stays.
-/

namespace SlideContract.Chain

/-- The text with every escape replaced by the character it escapes. -/
def unescape : List Char → List Char
  | '\\' :: c :: rest => if c = '\n' then '\\' :: c :: unescape rest else c :: unescape rest
  | c :: rest => c :: unescape rest
  | [] => []

/-- The content of a literal, or none if the text is no quoted literal. -/
def unquote (text : List Char) : Option (List Char) :=
  let literal := Text.trim text
  match literal with
  | quote :: _ :: _ =>
    if Scan.isQuote quote && literal.getLast? == some quote then
      some (unescape (literal.drop 1).dropLast)
    else none
  | _ => none

end SlideContract.Chain
