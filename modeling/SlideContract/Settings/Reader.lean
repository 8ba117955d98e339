import SlideContract.Json.Reader
import SlideContract.Settings.Basic
import SlideContract.Settings.Fault
import SlideContract.Text.Blank
import SlideContract.Text.Utf8
import SlideContract.Text.Word

/-!
# Reading settings

Settings are read from a JSON object whose members override the defaults; other members are
ignored. Names have to be identifiers, one line break behind them allowed. The depth may be written
as an integer, a whole binary64 value, a boolean, or a string that holds an integer.
-/

namespace SlideContract.Settings

/-- The text is an identifier, or an identifier and a line break. -/
def isIdentifier (text : List Char) : Bool :=
  match text with
  | [] => false
  | c :: rest =>
    Text.isNameStart c &&
      (rest.all Text.isNameChar ||
        (rest.getLast? == some '\n' && rest.dropLast.all Text.isNameChar))

/-- The text without its leading zeros and the underscores among them, but with the last of these
before a point or an end. Text that begins with neither a digit nor a minus is refused. -/
def withoutLeadingZeros (text : List Char) : Option (List Char) :=
  let zeros := text.takeWhile fun c => c == '0' || c == '_'
  match text, text.drop zeros.length with
  | [], _ => none
  | '0' :: _, [] => some zeros.getLast?.toList
  | '0' :: _, '.' :: more => some (zeros.getLast?.toList ++ '.' :: more)
  | c :: _, rest =>
    let isStart (c : Char) := c = '-' ∨ ('1' ≤ c ∧ c ≤ '9')
    if (c = '0' ∧ rest.head?.any (isStart ·)) ∨ isStart c then some rest else none

/-- The text without a point and the zeros behind it, of which there has to be one. -/
def withoutZeroTail (text : List Char) : List Char :=
  match text.dropWhile (· ≠ '.') with
  | '.' :: '0' :: rest => if rest.all (· == '0') then text.takeWhile (· ≠ '.') else text
  | _ => text

/-- The text without the underscores between its characters; single ones alone are taken out. -/
def withoutUnderscores (text : List Char) : List Char :=
  if text.head? = some '_' || text.getLast? = some '_' || Text.hasPart ['_', '_'] text then text
  else text.filter (· ≠ '_')

/-- The text after an optional plus that no minus follows. -/
def afterPlus (text : List Char) : Option (List Char) :=
  match text with
  | '+' :: '-' :: _ => none
  | '+' :: rest => some rest
  | _ => some text

/-- The integer that a text writes with an optional minus, ASCII digits and no leading zero. Digits
that are too many, the minus counted, are found before anything that may follow them. -/
def plainInteger (text : List Char) : Except Problem Int :=
  let negative := text.head? = some '-'
  let text := if negative then text.drop 1 else text
  let digits := text.takeWhile Char.isDigit
  let isPlain := text.head? ≠ some '0' ∨ digits = ['0']
  if isPlain ∧ digitLimit < digits.length + (if negative then 1 else 0) then
    .error .integerTextTooLong
  else if digits.isEmpty ∨ ¬isPlain ∨ digits ≠ text then .error .noIntegerText
  else
    let n : Int := Text.natOfDigits digits
    .ok (if negative then -n else n)

/-- The integer that a string holds. Zeros may stand before a minus and behind it. -/
def integerOfText (text : List Char) : Except Problem Int :=
  let cleaned := do
    let text ← afterPlus (Text.trimOuter text)
    let sign := if text.head? = some '-' then ['-'] else []
    let digits ← withoutLeadingZeros (text.drop sign.length)
    return sign ++ withoutUnderscores (withoutZeroTail digits)
  match cleaned with
  | some text => plainInteger text
  | none => .error .noIntegerText

/-- An integer counts as a depth in a binary64 value only strictly between `-2 ^ 63` and
`2 ^ 63`. -/
def isNarrow (i : Int) : Bool := i.natAbs < Nat.pow 2 63

/-- The integer that a value counts as. -/
def integer : Json → Except Problem Int
  | .bool b => .ok (if b then 1 else 0)
  | .num (.int i) => .ok i
  | .num (.real x) =>
    match x, x.toInt? with
    | _, some i => if isNarrow i then .ok i else .error .integerTextTooLong
    | .finite .., none => .error .fractional
    | _, none => .error .notFinite
  | .str s => integerOfText s.toList
  | _ => .error .notInteger

/-- A setting that was read, or the faults of what was found in its place. -/
abbrev Reading (α : Type) := Except (List Fault) α

/-- The fault of one member. -/
def faultAt {α : Type} (name : String) (problem : Problem) (input : Json) : Reading α :=
  .error [⟨[.name name], problem, input⟩]

/-- The value of a member read by `read`, or the default if there is none. -/
def member {α : Type} (members : List (String × Json)) (name : String) (default : α)
    (read : Json → Reading α) : Reading α :=
  match Entries.get? name members with
  | none => .ok default
  | some value => read value

/-- A string. -/
def readText (name : String) : Json → Reading String
  | .str s => .ok s
  | input => faultAt name .notString input

/-- A string that is an identifier. -/
def readIdentifier (name : String) (input : Json) : Reading String := do
  let s ← readText name input
  if isIdentifier s.toList then return s else faultAt name (.badIdentifier s) input

/-- The faults of the items of a list that are no strings. -/
def itemFaults (name : String) (items : List Json) : List Fault :=
  items.zipIdx.filterMap fun (item, i) =>
    match item with
    | .str _ => none
    | _ => some ⟨[.name name, .index i], .notString, item⟩

/-- The strings among the items of a list. -/
def texts (items : List Json) : List String :=
  items.filterMap fun
    | .str s => some s
    | _ => none

/-- A list of entry names, which is not empty. -/
def readEntryNames (name : String) (input : Json) : Reading (List String) :=
  match input with
  | .arr items =>
    let faults := itemFaults name items
    let names := texts items
    if !faults.isEmpty then .error faults
    else if names.isEmpty then faultAt name .noEntryNames input
    else
      match names.find? fun n => !isIdentifier n.toList with
      | some bad => faultAt name (.badEntryName bad) input
      | none => .ok names
  | _ => faultAt name .notList input

/-- An integer of at least one. -/
def readDepth (name : String) (input : Json) : Reading Int :=
  match integer input with
  | .error problem => faultAt name problem input
  | .ok i => if i < 1 then faultAt name .belowOne input else .ok i

/-- The faults of a setting. -/
def faultsOf {α : Type} : Reading α → List Fault
  | .ok _ => []
  | .error faults => faults

/-- The settings that a value describes, or every fault it has. -/
def ofJson (value : Json) : Except (List Fault) Settings :=
  match value with
  | .obj members =>
    let defaults : Settings := {}
    let entryNames :=
      member members "entry_names" defaults.entryNames (readEntryNames "entry_names")
    let nameSuffix :=
      member members "name_suffix" defaults.nameSuffix (readIdentifier "name_suffix")
    let builderNamespace :=
      member members "builder_namespace" defaults.builderNamespace
        (readIdentifier "builder_namespace")
    let containerHint :=
      member members "container_hint" defaults.containerHint (readText "container_hint")
    let maxDepth := member members "max_depth" defaults.maxDepth (readDepth "max_depth")
    match entryNames, nameSuffix, builderNamespace, containerHint, maxDepth with
    | .ok entryNames, .ok nameSuffix, .ok builderNamespace, .ok containerHint, .ok maxDepth =>
      .ok { entryNames, nameSuffix, builderNamespace, containerHint, maxDepth }
    | entryNames, nameSuffix, builderNamespace, containerHint, maxDepth =>
      .error (faultsOf entryNames ++ faultsOf nameSuffix ++ faultsOf builderNamespace ++
        faultsOf containerHint ++ faultsOf maxDepth)
  | _ => .error [⟨[], .notObject, value⟩]

/-- The settings as a JSON object. -/
def toJson (s : Settings) : Json :=
  .obj [("entry_names", .arr (s.entryNames.map .str)), ("name_suffix", .str s.nameSuffix),
    ("builder_namespace", .str s.builderNamespace), ("container_hint", .str s.containerHint),
    ("max_depth", .int s.maxDepth)]

/-- Why a settings file cannot be used. -/
inductive FileFault where
  | notFound (path : String)
  | encoding (fault : Text.Utf8Fault)
  | malformed (problem : Json.Problem) (line column position : Nat)
  | digits (fault : TooManyDigits)
  | refused (faults : List Fault)

/-- The message of a settings file that cannot be used. -/
def FileFault.message : FileFault → String
  | .notFound path => "Config file not found: " ++ path
  | .encoding fault => fault.message
  | .malformed problem line column position =>
    "Invalid JSON in config file: " ++ problem.text ++ ": line " ++ toString line ++ " column " ++
      toString column ++ " (char " ++ toString position ++ ")"
  | .digits fault => fault.message
  | .refused faults => report faults

/-- The settings that the text of a file describes. -/
def ofText (text : List Char) : Except FileFault Settings :=
  match Json.read text with
  | .ok value => (ofJson value).mapError .refused
  | .error (.digits fault) => .error (.digits fault)
  | .error (.malformed problem position) =>
    .error (.malformed problem (Json.line text position) (Json.column text position) position)

/-- The settings that the bytes of a file describe. -/
def ofBytes (bytes : List UInt8) : Except FileFault Settings :=
  match Text.decodeUtf8 bytes with
  | .ok text => ofText (Text.plainLineEnds text)
  | .error fault => .error (.encoding fault)

end SlideContract.Settings
