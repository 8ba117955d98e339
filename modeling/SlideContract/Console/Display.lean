import SlideContract.Event
import SlideContract.Finding
import SlideContract.Json.Writer

/-!
# What the program shows

The program shows blank lines, lines of text with markup, rules with titles, code, panels with code,
and tables. Good news has a green mark, bad news a red one, warnings a yellow one and remarks a blue
one.
-/

namespace SlideContract.Console

/-- One thing that is shown. -/
inductive Shown where
  | blank
  | line (text : String)
  | rule (title : String)
  | code (text : String)
  | panel (title code : String)
  | table (title : String) (columns : List String) (rows : List (List String))
  deriving DecidableEq, Repr

/-- A message behind a mark in a colour. -/
def marked (mark colour message : String) : Shown :=
  .line ("[" ++ colour ++ "]" ++ mark ++ "[/" ++ colour ++ "] " ++ message)

/-- Good news. -/
def success (message : String) : Shown := marked "✓" "green" message

/-- Bad news. -/
def failure (message : String) : Shown := marked "✗" "red" message

/-- A warning. -/
def warning (message : String) : Shown := marked "⚠" "yellow" message

/-- A remark. -/
def remark (message : String) : Shown := marked "ℹ" "blue" message

/-- The banner of a command. -/
def header (title : String) : List Shown :=
  [.blank, .rule ("[bold cyan]" ++ title ++ "[/bold cyan]"), .blank]

/-- A line across. -/
def separator : Shown := .rule ""

/-- JSON text, in a panel if it has a title. -/
def codeShown (text : String) (title : Option String) : Shown :=
  match title with
  | some title => if title.isEmpty then .code text else .panel ("[bold]" ++ title ++ "[/bold]") text
  | none => .code text

/-- A JSON value, in a panel if it has a title; a string is shown as the JSON text it holds. -/
def jsonShown (value : Json) (title : Option String) : Shown :=
  match value with
  | .str text => codeShown text title
  | value => codeShown value.indented title

/-- The beginning of a declaration on one line. -/
def declarationPreview (text : List Char) : List Char :=
  let line := Text.singleSpaced text
  if 50 < line.length then line.take 47 ++ "...".toList else line

/-- The row of a declaration. -/
def declarationRow (entryName : Option String) (declaration : String × List Char) (number : Nat) :
    List String :=
  let (name, text) := declaration
  [toString number, name, if some name = entryName then "[green]★[/green]" else "",
   toString text.length, String.ofList (declarationPreview text)]

/-- The table of declarations, with a mark on the entry point. -/
def declarationsShown (declarations : List (String × List Char)) (entryName : Option String) :
    List Shown :=
  [.blank,
   .table "Declarations" ["#", "Name", "Entry", "Length", "Expression"]
    ((declarations.zipIdx 1).map fun (d, i) => declarationRow entryName d i),
   .blank]

/-- The row of a diagnostic, given by the word for its kind, its message and its declaration. -/
def diagnosticRow (kind message : String) (name : Option String) : List String :=
  let name := name.getD ""
  [kind, if name.isEmpty then "-" else name, message]

/-- The table of rows of diagnostics. -/
def diagnosticRowsShown (rows : List (List String)) : List Shown :=
  if rows.isEmpty then [success "No recovery needed"]
  else [.blank, .table "Diagnostics" ["Kind", "Declaration", "Message"] rows, .blank]

/-- The table of diagnostics. -/
def diagnosticsShown (diagnostics : List Diagnostic) : List Shown :=
  diagnosticRowsShown (diagnostics.map fun d => diagnosticRow d.kind.word d.message d.name)

/-- The problems of a document. -/
def problemsShown (problems : List String) : List Shown :=
  if problems.isEmpty then [success "Schema is usable for strict structured output"]
  else
    [.blank, .line "[bold red]Schema Problems:[/bold red]"] ++
      problems.map (fun problem => .line ("  [red]•[/red] " ++ problem)) ++ [.blank]

/-- A finding and what to do about it. -/
def findingShown (f : Finding) : List Shown :=
  [.line ("  [red]•[/red] " ++ f.path ++ ": " ++ f.message),
   .line ("    [dim]" ++ f.suggestion ++ "[/dim]")]

/-- The findings, if there are any. -/
def findingsShown (findings : List Finding) : List Shown :=
  if findings.isEmpty then []
  else
    [.blank, .line "[bold red]Validation Errors:[/bold red]"] ++
      findings.flatMap findingShown ++ [.blank]

end SlideContract.Console
