import SlideContract.Console.Act
import SlideContract.Console.Arguments
import SlideContract.Console.Disk
import SlideContract.Edit.Response
import SlideContract.Layout.Record
import SlideContract.Schema.Strict
import SlideContract.Settings.Reader

/-!
# Commands

What the commands do with the files they are given, and what the program answers to its arguments.
A command that cannot read its settings, its source or its content says so and ends with the exit
code one; arguments that cannot be used end it with two and show nothing.
-/

namespace SlideContract.Console

/-- The settings that a file describes. -/
def readSettings (disk : Disk) (path : String) : Except Settings.FileFault Settings :=
  match disk.bytes? path with
  | some bytes => Settings.ofBytes bytes
  | none => .error (.notFound (Disk.plainPath path))

/-- The settings of a command: those of its file, or the defaults. -/
def loadSettings (disk : Disk) (path : Option String) (announce : Bool) : Act Settings := do
  match path with
  | none => return {}
  | some path =>
    match readSettings disk path with
    | .error fault =>
      Act.display [failure ("Failed to load config: " ++ fault.message)]
      Act.exit 1
    | .ok settings =>
      if announce then Act.display [success ("Loaded config from: " ++ Disk.plainPath path)]
      return settings

/-- The text of a file, with plain line ends. -/
def readText (disk : Disk) (path : String) : Except Text.Utf8Fault (List Char) :=
  (Text.decodeUtf8 ((disk.bytes? path).getD [])).map Text.plainLineEnds

/-- The layout source of a command. -/
def loadSource (disk : Disk) (path : String) : Act (List Char) := do
  match readText disk path with
  | .ok text => return text
  | .error fault =>
    Act.display [failure
      ("Failed to load layout source: Layout source is not UTF-8 text: " ++ fault.message)]
    Act.exit 1

/-- The content of a command. -/
def loadContent (disk : Disk) (path : String) : Act (List Char) := do
  match readText disk path with
  | .ok text =>
    Act.display [success ("Loaded content from: " ++ Disk.plainPath path)]
    return text
  | .error fault =>
    Act.display [failure ("Failed to read content: " ++ fault.message)]
    Act.exit 1

/-- The message on a document that cannot be edited. -/
def editMessage (fault : Edit.Fault) : String := fault.message?.getD "Unusable document"

/-- The document that a command works with: the compiled one, or its response schema. -/
def chooseDocument (document : Json) (response : Bool) : Act Json :=
  if response then
    match Edit.response document with
    | .ok document => return document
    | .error fault => Act.fail (editMessage fault)
  else return document

/-- The record that is written for a layout: its metadata and its document. -/
def recordJson (m : Layout.Metadata) (document : Json) : Json :=
  .obj [("id", .str m.identifier), ("name", .str m.name), ("description", .str m.description),
    ("json_schema", document)]

/-- Writes a text to a file. -/
def saveText (disk : Disk) (path : Option String) (text : String) : Act Unit :=
  match path with
  | none => return
  | some path =>
    match disk.writeFault? path with
    | some fault => Act.fail fault.message
    | none => Act.save (disk.resolve path) text

/-- Shows what became of a compilation. -/
def reportCompiled (c : Layout.Compiled) : Act Unit :=
  if c.usedFallback then
    Act.display
      (warning "Layout did not compile, fallback schema used" :: diagnosticsShown c.diagnostics)
  else
    Act.display
      [success ("Compiled entry point [bold]" ++ c.entryName.getD "None" ++ "[/bold]")]

/-- Compiles a layout and shows or saves its document. -/
def runCompile (disk : Disk) (source : String) (output config : Option String)
    (metadata response raw : Bool) : Act Unit := do
  if !raw then Act.display (header "layout-schema - Compile")
  let settings ← loadSettings disk config (!raw)
  let text ← loadSource disk source
  let compiled := Layout.compile settings text
  let document ← chooseDocument compiled.document response
  let data := if metadata then recordJson (Layout.metadata text) document else document
  let serialized := data.indented ++ "\n"
  saveText disk output serialized
  if raw then
    if output.isNone then Act.print serialized
  else
    reportCompiled compiled
    match output with
    | some path => Act.display [success ("Wrote schema to: " ++ Disk.plainPath path)]
    | none =>
      Act.display [jsonShown data (some (if metadata then "Layout Schema" else "Schema"))]

/-- Shows the declarations of a layout and what became of them. -/
def runInspect (disk : Disk) (source : String) (config : Option String) (showSchema : Bool) :
    Act Unit := do
  Act.display (header "layout-schema - Inspect")
  let settings ← loadSettings disk config true
  let text ← loadSource disk source
  let table := (Declaration.table settings text).result.toOption.getD []
  let entry := ((Declaration.entry? settings text table).result.toOption.getD none).map (·.name)
  let compiled := Layout.compile settings text
  Act.display (declarationsShown table entry)
  match entry with
  | none => Act.display [warning "No entry point found"]
  | some name => Act.display [remark ("Entry point: [bold]" ++ name ++ "[/bold]")]
  Act.display (separator :: diagnosticsShown compiled.diagnostics)
  match Schema.Strict.problems compiled.document with
  | .ok problems => Act.display (problemsShown problems)
  | .error _ => Act.fail "Unusable document"
  if compiled.usedFallback then Act.display [warning "Fallback schema used"]
  if showSchema then Act.display [jsonShown compiled.document (some "Schema")]

/-- The message on content that cannot be judged. -/
def contentMessage : ContentFault → String
  | .digits fault => fault.message
  | .schema _ => "Unusable document"

/-- Checks content against the document of a layout. -/
def runValidate (disk : Disk) (content source : String) (config : Option String)
    (response showSchema : Bool) : Act Unit := do
  Act.display (header "layout-schema - Validate")
  let settings ← loadSettings disk config true
  let text ← loadSource disk source
  let compiled := Layout.compile settings text
  if compiled.usedFallback then
    Act.display [warning "Layout did not compile, validating against the fallback schema"]
  let document ← chooseDocument compiled.document response
  if showSchema then Act.display [jsonShown document (some "Schema")]
  let written ← loadContent disk content
  Act.display [separator, remark "Validating..."]
  match Verdict.ofContent document (.str (String.ofList written)) with
  | .error fault => Act.fail (contentMessage fault)
  | .ok verdict =>
    Act.display [.blank]
    if verdict.isValid then Act.display [success "Validation passed!"]
    else
      Act.display (failure "Validation failed" :: findingsShown verdict.findings)
      Act.exit 1

/-- The files that have to be there for a command to be run. -/
def neededFiles : Command → List String
  | .compile source _ config .. => source :: config.toList
  | .inspect source config _ => source :: config.toList
  | .validate content source config .. => content :: source :: config.toList

/-- The file that a command writes. -/
def outputFile? : Command → Option String
  | .compile _ output .. => output
  | .inspect .. | .validate .. => none

/-- Runs a command. -/
def runCommand (disk : Disk) : Command → Act Unit
  | .compile source output config metadata response raw =>
    runCompile disk source output config metadata response raw
  | .inspect source config showSchema => runInspect disk source config showSchema
  | .validate content source config response showSchema =>
    runValidate disk content source config response showSchema

/-- What the program ends with: its exit code, and what it has shown and written. -/
structure Outcome where
  exitCode : Nat
  transcript : Transcript := {}

/-- The outcome of an act; a message it is broken off with is shown. -/
def Outcome.ofAct (act : Act Unit) : Outcome :=
  match act.result with
  | .ok () => { exitCode := 0, transcript := act.transcript }
  | .error (.exit code) => { exitCode := code, transcript := act.transcript }
  | .error (.failed message) =>
    let transcript := act.transcript
    { exitCode := 1
      transcript :=
        { transcript with shown := transcript.shown ++ [failure ("Command failed: " ++ message)] } }

/-- The line that tells the version. -/
def versionLine : String := "layout-schema version 0.1.0\n"

/-- What the program answers to its arguments. -/
def answer (disk : Disk) (arguments : List String) : Outcome :=
  match request arguments with
  | .version => { exitCode := 0, transcript := { stdout := versionLine } }
  | .help => { exitCode := 0 }
  | .unusable => { exitCode := 2 }
  | .run command =>
    if (neededFiles command).all disk.isFile then Outcome.ofAct (runCommand disk command)
    else { exitCode := 2 }

end SlideContract.Console
