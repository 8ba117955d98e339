import SlideContract.Document
import SlideContract.Json.Display
import SlideContract.Text.Blank

/-!
# Events

Compilation does not fail on a source it cannot understand: it degrades and says so. An event is
one thing that happened on the way, and its cause decides which diagnostic it leaves and which note
is written about it, if any.
-/

namespace SlideContract

/-- The beginning of a text on one line, at most sixty characters long. -/
def Text.preview (text : List Char) : List Char :=
  let line := singleSpaced text
  if line.length ≤ 60 then line else line.take 57 ++ "...".toList

/-- The kinds of degradation. -/
inductive DiagnosticKind where
  | extractionFailure
  | noMainDeclaration
  | unresolvedFragment
  | referenceCycle
  | depthExceeded
  | emptySchema
  | internalError
  deriving DecidableEq, Repr

/-- The word for a kind of degradation. -/
def DiagnosticKind.word : DiagnosticKind → String
  | .extractionFailure => "extraction_failure"
  | .noMainDeclaration => "no_main_declaration"
  | .unresolvedFragment => "unresolved_fragment"
  | .referenceCycle => "reference_cycle"
  | .depthExceeded => "depth_exceeded"
  | .emptySchema => "empty_schema"
  | .internalError => "internal_error"

/-- A recorded degradation, with the declaration it befell. -/
structure Diagnostic where
  kind : DiagnosticKind
  message : String
  name : Option String := none
  deriving DecidableEq, Repr

/-- How much a note matters. -/
inductive Level where
  | debug
  | info
  | warning
  | error
  deriving DecidableEq, Repr

/-- The stage of compilation that a note comes from. -/
inductive Stage where
  | declaration
  | chain
  | document
  | layout
  deriving DecidableEq, Repr

/-- A note on the course of a compilation. -/
structure Note where
  level : Level
  stage : Stage
  message : String
  deriving DecidableEq, Repr

/-- What ends a compilation: an integer with too many digits, or a tree that requires properties
that it does not have. -/
inductive Fault where
  | digits (fault : TooManyDigits)
  | missing (fault : Document.MissingProperties)
  deriving DecidableEq, Repr

/-- The message of a fault. -/
def Fault.message : Fault → String
  | .digits fault => fault.message
  | .missing fault =>
    "Required properties missing from object: " ++ Json.displayNames fault.names

/-- One thing that happened during a compilation. -/
inductive Event where
  /-- The span of a declaration could not be found. -/
  | malformed (name : String) (line : Nat)
  /-- A declaration has the name of an earlier one. -/
  | redeclared (name : String)
  /-- All declarations are collected. -/
  | collected (names : List String)
  /-- The entry point was found in the source alone. -/
  | entryInSource (name : String)
  /-- There is no entry point in a source that begins with this text. -/
  | noEntry (opening : List Char)
  /-- The entry point is being compiled. -/
  | entering (name : String)
  /-- A text stands deeper than the ceiling. -/
  | tooDeep (ceiling : Int) (text : List Char)
  /-- A text is no chain of a known kind. -/
  | unrecognized (text : List Char)
  /-- A declaration refers back to itself. -/
  | cycle (name : String)
  /-- A reference is replaced by the declaration it names. -/
  | inlined (name : String)
  /-- An array has no item expression. -/
  | itemless
  /-- The shape of an object is no inline literal. -/
  | unsupportedShape (shape : List Char)
  /-- An entry of an object is no field. -/
  | skipped (entry : List Char)
  /-- The values of an enumeration are no inline list. -/
  | openEnum (argument : List Char)
  /-- A literal is no string. -/
  | unsupportedLiteral (text : List Char)
  /-- The whole tree was not understood. -/
  | unknownRoot
  /-- The entry point has no properties. -/
  | noProperties (name : String)
  /-- The compilation was ended by a fault. -/
  | ended (fault : Fault)
  /-- A layout with this identifier is answered with the fallback document. -/
  | fallbackLayout (identifier : String)
  deriving DecidableEq, Repr

namespace Event

/-- The diagnostic that an event leaves. -/
def diagnostic? : Event → Option Diagnostic
  | .malformed name line =>
    some ⟨.extractionFailure,
      "Could not find the end of " ++ name ++ " (line " ++ toString line ++ ")", some name⟩
  | .noEntry _ => some ⟨.noMainDeclaration, "No schema declaration found", none⟩
  | .tooDeep ceiling _ =>
    some ⟨.depthExceeded, "Nesting deeper than " ++ toString ceiling ++ " levels", none⟩
  | .unrecognized text =>
    some ⟨.unresolvedFragment,
      "Unrecognized expression: " ++ String.ofList (Text.preview text), none⟩
  | .cycle name => some ⟨.referenceCycle, name ++ " refers back to itself", some name⟩
  | .unsupportedShape shape =>
    some ⟨.unresolvedFragment,
      "Unsupported object shape: " ++ String.ofList (Text.preview shape), none⟩
  | .unsupportedLiteral text =>
    some ⟨.unresolvedFragment,
      "Unsupported literal: " ++ String.ofList (Text.preview text), none⟩
  | .noProperties name =>
    some ⟨.emptySchema, name ++ " compiled to an object without properties", some name⟩
  | .ended fault => some ⟨.internalError, fault.message, none⟩
  | _ => none

/-- The note that is written about an event. -/
def note? : Event → Option Note
  | .malformed name line =>
    some ⟨.warning, .declaration,
      "Skipping malformed declaration " ++ name ++ " at line " ++ toString line⟩
  | .redeclared name =>
    some ⟨.debug, .declaration, "Declaration " ++ name ++ " redeclared, keeping the later one"⟩
  | .collected names =>
    some ⟨.debug, .declaration,
      "Found " ++ toString names.length ++ " declaration(s): " ++ String.intercalate ", " names⟩
  | .entryInSource name =>
    some ⟨.debug, .declaration,
      "Entry point " ++ name ++ " found outside the declaration table"⟩
  | .noEntry opening =>
    some ⟨.warning, .layout,
      "No schema declaration found, using fallback document (source starts with " ++
        (String.ofList opening).quoted ++ ")"⟩
  | .entering name => some ⟨.debug, .layout, "Compiling entry point " ++ name⟩
  | .tooDeep ceiling text =>
    some ⟨.warning, .chain,
      "Depth ceiling " ++ toString ceiling ++ " reached at " ++
        String.ofList (Text.preview text)⟩
  | .unrecognized text =>
    some ⟨.debug, .chain, "Unrecognized fragment: " ++ String.ofList (Text.preview text)⟩
  | .cycle name =>
    some ⟨.warning, .chain,
      "Reference cycle through " ++ name ++ ", treating it as unknown"⟩
  | .inlined name => some ⟨.debug, .chain, "Inlining reference " ++ name⟩
  | .itemless => some ⟨.debug, .chain, "Array without an item expression"⟩
  | .unsupportedShape shape =>
    some ⟨.debug, .chain,
      "Object shape is not an inline literal: " ++ String.ofList (Text.preview shape)⟩
  | .skipped entry =>
    some ⟨.debug, .chain, "Skipping object entry: " ++ String.ofList (Text.preview entry)⟩
  | .openEnum argument =>
    some ⟨.debug, .chain,
      "Enum values are not an inline list: " ++ String.ofList (Text.preview argument)⟩
  | .unsupportedLiteral _ => none
  | .unknownRoot =>
    some ⟨.warning, .document,
      "Schema did not resolve to a known type, using fallback document"⟩
  | .noProperties name =>
    some ⟨.warning, .layout, name ++ " has no properties, using fallback document"⟩
  | .ended fault =>
    some ⟨.error, .layout,
      "Unexpected error while compiling layout schema: " ++ fault.message⟩
  | .fallbackLayout identifier =>
    some ⟨.info, .layout, "Layout " ++ identifier ++ " uses the fallback schema"⟩

end Event

/-- The diagnostics that events leave, in order. -/
def diagnosticsOf (events : List Event) : List Diagnostic := events.filterMap Event.diagnostic?

/-- The notes that are written about events, in order. -/
def notesOf (events : List Event) : List Note := events.filterMap Event.note?

end SlideContract
