import SlideContract.Json.Display
import SlideContract.Location

/-!
# Faults of settings

A value that is no settings is refused with one fault for each place that is wrong. A fault names
the place and the input found there.
-/

namespace SlideContract

namespace Settings

/-- What is wrong with an input. -/
inductive Problem where
  | notObject
  | notList
  | notString
  | noEntryNames
  | badEntryName (name : String)
  | badIdentifier (text : String)
  | notInteger
  | noIntegerText
  | integerTextTooLong
  | fractional
  | notFinite
  | belowOne
  deriving DecidableEq, Repr

namespace Problem

/-- The code of a problem. -/
def code : Problem → String
  | .notObject => "model_type"
  | .notList => "list_type"
  | .notString => "string_type"
  | .noEntryNames | .badEntryName _ | .badIdentifier _ => "value_error"
  | .notInteger => "int_type"
  | .noIntegerText => "int_parsing"
  | .integerTextTooLong => "int_parsing_size"
  | .fractional => "int_from_float"
  | .notFinite => "finite_number"
  | .belowOne => "greater_than_equal"

/-- The problem in words. -/
def message : Problem → String
  | .notObject => "Input should be a valid dictionary or instance of CompilerConfig"
  | .notList => "Input should be a valid list"
  | .notString => "Input should be a valid string"
  | .noEntryNames => "Value error, entry_names must not be empty"
  | .badEntryName name => "Value error, Invalid entry name: " ++ name.quoted
  | .badIdentifier text => "Value error, Invalid identifier: " ++ text.quoted
  | .notInteger => "Input should be a valid integer"
  | .noIntegerText =>
    "Input should be a valid integer, unable to parse string as an integer"
  | .integerTextTooLong =>
    "Unable to parse input string as an integer, exceeded maximum size"
  | .fractional => "Input should be a valid integer, got a number with a fractional part"
  | .notFinite => "Input should be a finite number"
  | .belowOne => "Input should be greater than or equal to 1"

end Problem

/-- A problem with the input at a place. -/
structure Fault where
  location : Location
  problem : Problem
  input : Json

/-- The kind of an input, as a report names it. -/
def inputKind : Json → String
  | .null => "NoneType"
  | .bool _ => "bool"
  | .num (.int _) => "int"
  | .num (.real _) => "float"
  | .str _ => "str"
  | .arr _ => "list"
  | .obj _ => "dict"

/-- The longest beginning of a text that takes at most `limit` bytes. -/
def takeBytes (limit : Nat) : List Char → List Char
  | [] => []
  | c :: rest => if c.utf8Size ≤ limit then c :: takeBytes (limit - c.utf8Size) rest else []

/-- The number of bytes of a text. -/
def byteCount : List Char → Nat
  | [] => 0
  | c :: rest => c.utf8Size + byteCount rest

/-- The longest end of a text that takes at most `limit` bytes. -/
def lastBytes (limit : Nat) (text : List Char) : List Char :=
  (takeBytes limit text.reverse).reverse

/-- A text of at most fifty bytes, a longer one with its middle left out. -/
def shortened (text : List Char) : List Char :=
  if byteCount text ≤ 50 then text else takeBytes 25 text ++ "...".toList ++ lastBytes 24 text

/-- One step of a location in a report. -/
def stepText : Step → String
  | .name name => name
  | .index index => toString index

/-- A fault in a report. -/
def Fault.report (f : Fault) : String :=
  let place :=
    if f.location.isEmpty then "" else String.intercalate "." (f.location.map stepText) ++ "\n"
  place ++ "  " ++ f.problem.message ++ " [type=" ++ f.problem.code ++ ", input_value=" ++
    String.ofList (shortened f.input.display.toList) ++ ", input_type=" ++ inputKind f.input ++
    "]\n    For further information visit https://errors.pydantic.dev/2.14/v/" ++ f.problem.code

/-- The report on a value that is no settings. -/
def report (faults : List Fault) : String :=
  let count := toString faults.length ++ " validation error" ++
    (if faults.length = 1 then "" else "s") ++ " for CompilerConfig"
  String.intercalate "\n" (count :: faults.map Fault.report)

end Settings
end SlideContract
