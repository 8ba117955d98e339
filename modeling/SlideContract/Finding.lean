import SlideContract.Json.Display
import SlideContract.Json.Reader
import SlideContract.Schema.Check

/-!
# Findings

What is wrong with the content that a model has written: a finding names the field, the keyword
that is broken, what was expected and what was there, and suggests what to do about it. Content is
given as text, which may turn out to be no JSON at all.
-/

namespace SlideContract

/-- One way in which content breaks a document. -/
structure Finding where
  path : String
  message : String
  keyword : String
  expected : Json := .null
  actual : Json := .null

namespace Finding

/-- The finding of a violation. -/
def ofViolation (v : Schema.Violation) : Finding :=
  { path := Location.render v.location, message := v.message, keyword := v.keyword.getD "None"
    expected := v.expected, actual := v.actual }

/-- The values of a list, or a single value, as a suggestion lists them. -/
def listed : Json → String
  | .arr values => String.intercalate ", " (values.map Json.display)
  | value => value.display

/-- What to do about a finding. -/
def suggestion (f : Finding) : String :=
  let limit := f.expected.plain
  match f.keyword with
  | "required" => "Fill in " ++ listed f.actual ++ " at " ++ f.path
  | "additionalProperties" =>
    "Drop " ++ listed f.actual ++ " at " ++ f.path ++ ", the layout has no place for them"
  | "type" => "Give " ++ f.path ++ " a value of type " ++ limit
  | "enum" => "Use one of " ++ listed f.expected ++ " for " ++ f.path
  | "maxLength" => "Shorten " ++ f.path ++ " to at most " ++ limit ++ " characters"
  | "minLength" => "Lengthen " ++ f.path ++ " to at least " ++ limit ++ " characters"
  | "maxItems" => "Keep at most " ++ limit ++ " items in " ++ f.path
  | "minItems" => "Provide at least " ++ limit ++ " items in " ++ f.path
  | "maximum" => "Keep " ++ f.path ++ " at or below " ++ limit
  | "minimum" => "Keep " ++ f.path ++ " at or above " ++ limit
  | "json" => "Return a single JSON object and nothing else"
  | _ => "Check the layout schema for " ++ f.path

/-- The rule, the value and the suggestion of a finding, on lines of their own. -/
def explanation (f : Finding) : String :=
  let rule :=
    match f.expected with
    | .null => []
    | expected => ["   rule:  " ++ f.keyword ++ " = " ++ expected.display]
  String.intercalate "\n"
    ([f.path ++ ": " ++ f.message] ++ rule ++
      ["   value: " ++ f.actual.display, "   fix:   " ++ f.suggestion])

/-- One line for each finding. -/
def summary (findings : List Finding) : String :=
  if findings.isEmpty then "No validation errors" else
  let line (f : Finding) : String := "  - " ++ f.path ++ " [" ++ f.keyword ++ "]: " ++ f.message
  String.intercalate "\n"
    ((toString findings.length ++ " problem(s) in generated content:") :: findings.map line)

end Finding

/-- Why content cannot be judged. -/
inductive ContentFault where
  | digits (fault : TooManyDigits)
  | schema (fault : Schema.Fault)
  deriving DecidableEq, Repr

/-- What is wrong with content, in the order of the fields, and the content if nothing is. -/
structure Verdict where
  findings : List Finding
  data : Json

namespace Verdict

/-- The content fits the document. -/
def isValid (v : Verdict) : Bool := v.findings.isEmpty

/-- The verdict on a text that is no JSON. -/
def ofMalformed (text : List Char) (problem : Json.Problem) (position : Nat) : Verdict :=
  let message :=
    "Invalid JSON: " ++ problem.text ++ " (line " ++ toString (Json.line text position) ++
      ", column " ++ toString (Json.column text position) ++ ")"
  { findings := [{
      path := Location.render [], message, keyword := "json", expected := .str "a JSON object",
      actual := .str (String.ofList (text.take 80)) }]
    data := .null }

/-- The verdict on a value. -/
def ofValue (document value : Json) : Except ContentFault Verdict :=
  match Schema.violations document value with
  | .ok [] => .ok { findings := [], data := value }
  | .ok violations => .ok { findings := violations.map .ofViolation, data := .null }
  | .error fault => .error (.schema fault)

/-- The verdict on content; a string is the JSON text of the content. -/
def ofContent (document : Json) : Json → Except ContentFault Verdict
  | .str s =>
    match Json.read s.toList with
    | .ok value => ofValue document value
    | .error (.malformed problem position) => .ok (ofMalformed s.toList problem position)
    | .error (.digits fault) => .error (.digits fault)
  | value => ofValue document value

end Verdict
end SlideContract
