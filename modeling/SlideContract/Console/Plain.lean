import SlideContract.Console.Display

/-!
# Plain text

What the program shows, as plain text without markup: what it takes where the output has neither
colours nor boxes.
-/

namespace SlideContract.Console

/-- The styles that the markup of the program names. -/
def styles : List String :=
  ["bold", "bold cyan", "bold red", "dim", "red", "green", "yellow", "blue"]

/-- The tags that begin and end a style. -/
def tags : List (List Char) :=
  styles.flatMap fun style => [("[" ++ style ++ "]").toList, ("[/" ++ style ++ "]").toList]

/-- A text without its tags, behind characters of a tag that are still to be left out. -/
def dropTags : Nat → List Char → List Char
  | _, [] => []
  | left + 1, _ :: rest => dropTags left rest
  | 0, c :: rest =>
    match tags.find? (·.isPrefixOf (c :: rest)) with
    | some tag => dropTags (tag.length - 1) rest
    | none => c :: dropTags 0 rest

/-- The text that markup stands for. -/
def plainText (text : String) : String := String.ofList (dropTags 0 text.toList)

/-- A row of a table. -/
def plainRow (cells : List String) : String :=
  String.intercalate " | " (cells.map plainText) ++ "\n"

/-- What is shown, as plain text. -/
def Shown.plain : Shown → String
  | .blank => "\n"
  | .line text => plainText text ++ "\n"
  | .rule title => if title.isEmpty then "----\n" else "---- " ++ plainText title ++ " ----\n"
  | .code text => text ++ "\n"
  | .panel title text => plainText title ++ "\n" ++ text ++ "\n"
  | .table title columns rows =>
    title ++ "\n" ++ plainRow columns ++ String.join (rows.map plainRow)

/-- How the program is called. -/
def usage : String :=
  "usage: layout-schema [--version] [--verbose] COMMAND\n" ++
  "  compile SOURCE [--output FILE] [--config FILE] [--metadata] [--response-schema] [--raw]\n" ++
  "  inspect SOURCE [--config FILE] [--show-schema]\n" ++
  "  validate --json FILE --source FILE [--config FILE] [--response-schema] [--show-schema]\n"

end SlideContract.Console
