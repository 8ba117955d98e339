import SlideContract.Compile.Expression
import SlideContract.Declaration.Entry

/-!
# Compiling layouts

The document of a layout source is that of its entry point. Compilation always answers: a source
without an entry point, an entry point that is not understood or has no properties, and a fault on
the way are all answered with the fallback document.
-/

namespace SlideContract.Layout

/-- The answer to a layout source: its document, the name of the entry point, the names of the
declarations, whether the fallback document stands in, and what happened on the way. -/
structure Compiled where
  document : Json
  entryName : Option String := none
  declarations : List String := []
  usedFallback : Bool := false
  events : List Event := []

/-- The document of a compiled entry point, and whether it is the fallback. -/
def documentOf (name : String) (tree : TypeTree) : Run (Json × Bool) :=
  match tree with
  | .unknown => do
    Run.emit .unknownRoot
    return (Document.fallback, true)
  | .object [] _ => do
    Run.emit (.noProperties name)
    return (Document.fallback, true)
  | tree =>
    { result := (Document.ofRoot tree).map (·, false) |>.mapError .missing }

/-- The document of an entry point, and whether it is the fallback. -/
def entryDocument (settings : Settings) (table : Table) (e : Declaration.Entry) :
    Run (Json × Bool) := do
  Run.emit (.entering e.name)
  documentOf e.name (← Compile.expression { table, settings } [e.name] 0 e.text)

/-- The answer to a source whose declarations are collected. -/
def answer (settings : Settings) (source : List Char) (table : Table) : Compiled :=
  let entry := Declaration.entry? settings source table
  let answered : Compiled :=
    { document := Document.fallback, declarations := Entries.names table, usedFallback := true
      events := entry.events }
  match entry.result with
  | .error fault => { answered with events := answered.events ++ [.ended fault] }
  | .ok none => { answered with events := answered.events ++ [.noEntry (source.take 80)] }
  | .ok (some e) =>
    let run := entryDocument settings table e
    let answered :=
      { answered with entryName := some e.name, events := answered.events ++ run.events }
    match run.result with
    | .ok (document, usedFallback) => { answered with document, usedFallback }
    | .error fault => { answered with events := answered.events ++ [.ended fault] }

/-- The answer to a layout source. -/
def compile (settings : Settings) (source : List Char) : Compiled :=
  let collected := Declaration.table settings source
  match collected.result with
  | .ok table =>
    let answered := answer settings source table
    { answered with events := collected.events ++ answered.events }
  | .error fault =>
    { document := Document.fallback, usedFallback := true
      events := collected.events ++ [.ended fault] }

/-- The diagnostics of a compilation. -/
def Compiled.diagnostics (c : Compiled) : List Diagnostic := diagnosticsOf c.events

end SlideContract.Layout
