import SlideContract.Json.Basic
import SlideContract.Text.Quoted

/-!
# Writing JSON

A document is written in ASCII, on one line with a space after each comma and colon, or with one
part a line and two spaces of indentation a level. Characters beyond ASCII are escaped in units of
sixteen bits.
-/

namespace SlideContract.Json

/-- A sixteen bit unit, escaped. -/
def escapedUnit (n : Nat) : List Char := '\\' :: 'u' :: Text.hex 4 n

/-- A character inside a written string. -/
def writtenChar (c : Char) : List Char :=
  if c == '\x22' then ['\\', '\x22']
  else if c == '\\' then ['\\', '\\']
  else if c == '\n' then ['\\', 'n']
  else if c == '\r' then ['\\', 'r']
  else if c == '\t' then ['\\', 't']
  else if c == '\x08' then ['\\', 'b']
  else if c == '\x0c' then ['\\', 'f']
  else if 0x20 ≤ c.toNat && c.toNat < 0x7f then [c]
  else if c.toNat < 0x10000 then escapedUnit c.toNat
  else
    let beyond := c.toNat - 0x10000
    escapedUnit (0xd800 + beyond / 0x400) ++ escapedUnit (0xdc00 + beyond % 0x400)

/-- A string between double quotes. -/
def writtenString (s : String) : String :=
  String.ofList ('\x22' :: s.toList.flatMap writtenChar ++ ['\x22'])

mutual

/-- The document on one line. -/
def compact : Json → String
  | .null => "null"
  | .bool true => "true"
  | .bool false => "false"
  | .num n => n.written
  | .str s => writtenString s
  | .arr items => "[" ++ String.intercalate ", " (compactItems items) ++ "]"
  | .obj members => "\x7b" ++ String.intercalate ", " (compactMembers members) ++ "\x7d"

/-- The items, each on one line. -/
def compactItems : List Json → List String
  | [] => []
  | item :: rest => compact item :: compactItems rest

/-- The members, each on one line. -/
def compactMembers : List (String × Json) → List String
  | [] => []
  | (name, value) :: rest =>
    (writtenString name ++ ": " ++ compact value) :: compactMembers rest

end

/-- A line break and the indentation of a level. -/
def newLine (level : Nat) : String := String.ofList ('\n' :: List.replicate (2 * level) ' ')

mutual

/-- The document with one part a line, from the indentation level `level` on. -/
def indentedAt (level : Nat) : Json → String
  | .arr [] => "[]"
  | .obj [] => "\x7b\x7d"
  | .arr items =>
    "[" ++ newLine (level + 1) ++
      String.intercalate ("," ++ newLine (level + 1)) (indentedItems (level + 1) items) ++
      newLine level ++ "]"
  | .obj members =>
    "\x7b" ++ newLine (level + 1) ++
      String.intercalate ("," ++ newLine (level + 1)) (indentedMembers (level + 1) members) ++
      newLine level ++ "\x7d"
  | value => compact value

/-- The items, each from the indentation level `level` on. -/
def indentedItems (level : Nat) : List Json → List String
  | [] => []
  | item :: rest => indentedAt level item :: indentedItems level rest

/-- The members, each from the indentation level `level` on. -/
def indentedMembers (level : Nat) : List (String × Json) → List String
  | [] => []
  | (name, value) :: rest =>
    (writtenString name ++ ": " ++ indentedAt level value) :: indentedMembers level rest

end

/-- The document with one part a line. -/
def indented (value : Json) : String := indentedAt 0 value

end SlideContract.Json
