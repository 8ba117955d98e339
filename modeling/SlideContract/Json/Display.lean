import SlideContract.Json.Basic
import SlideContract.Text.Quoted

/-!
# JSON values in messages

A message shows a value with its strings quoted, `None` for null, `True` and `False` for the
booleans, and a comma and a space between the parts of a list or an object.
-/

namespace SlideContract.Json

mutual

/-- The value as a message shows it. -/
def display : Json → String
  | .null => "None"
  | .bool true => "True"
  | .bool false => "False"
  | .num n => n.display
  | .str s => s.quoted
  | .arr items => "[" ++ String.intercalate ", " (displayItems items) ++ "]"
  | .obj members => "\x7b" ++ String.intercalate ", " (displayMembers members) ++ "\x7d"

/-- The items as a message shows them. -/
def displayItems : List Json → List String
  | [] => []
  | item :: rest => display item :: displayItems rest

/-- The members as a message shows them. -/
def displayMembers : List (String × Json) → List String
  | [] => []
  | (name, value) :: rest => (name.quoted ++ ": " ++ display value) :: displayMembers rest

end

/-- The value as a message shows it inside running text: a string without quotes. -/
def plain : Json → String
  | .str s => s
  | value => value.display

/-- A list of names as a message shows it. -/
def displayNames (names : List String) : String :=
  "[" ++ String.intercalate ", " (names.map String.quoted) ++ "]"

end SlideContract.Json
