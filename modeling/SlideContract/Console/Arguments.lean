import SlideContract.Entries

/-!
# Arguments

The arguments of the program: options of the program, a command, and the options and files of that
command. An option has a long name and perhaps a short one of one letter. Its value is the next
argument, or stands behind an equals sign or directly behind the short name; short options without
values may share a dash. Two dashes end the options.
-/

namespace SlideContract.Console

/-- An option: its names, and whether it takes a value. -/
structure Switch where
  long : String
  short : Option Char := none
  takesValue : Bool := false

/-- The options that were given, with their values, in order. -/
abbrev Given := List (String × Option String)

namespace Given

/-- The option was given. -/
def has (name : String) (given : Given) : Bool := given.any (·.1 == name)

/-- The value that an option was given last. -/
def value? (name : String) (given : Given) : Option String :=
  (given.reverse.find? (·.1 == name)).bind (·.2)

end Given

/-- The options that one argument gives, and the one whose value is the next argument. -/
structure Opened where
  given : Given
  pending : Option String := none

/-- The options that the letters behind a dash give. -/
def readLetters (switches : List Switch) : List Char → Option Opened
  | [] => some { given := [] }
  | c :: rest => do
    let switch ← switches.find? (·.short == some c)
    if switch.takesValue then
      if rest.isEmpty then return { given := [], pending := some switch.long }
      else return { given := [(switch.long, some (String.ofList rest))] }
    else
      let opened ← readLetters switches rest
      return { opened with given := (switch.long, none) :: opened.given }

/-- The option that a long name gives, with the value behind an equals sign if there is one. -/
def readLong (switch : Switch) (attached : Option String) : Option Opened :=
  match switch.takesValue, attached with
  | true, some v => some { given := [(switch.long, some v)] }
  | true, none => some { given := [], pending := some switch.long }
  | false, none => some { given := [(switch.long, none)] }
  | false, some _ => none

/-- The options that an argument with a dash gives. -/
def readOption (switches : List Switch) (argument : String) : Option Opened :=
  let text := argument.toList
  let name := text.takeWhile (· ≠ '=')
  let attached :=
    match text.drop name.length with
    | _ :: value => some (String.ofList value)
    | [] => none
  match switches.find? fun s => name = '-' :: '-' :: s.long.toList with
  | some switch => readLong switch attached
  | none =>
    match text with
    | '-' :: '-' :: _ => none
    | _ => readLetters switches (text.drop 1)

/-- The argument gives options: it begins with a dash and has more than that. -/
def givesOptions (argument : String) : Bool :=
  match argument.toList with
  | '-' :: _ :: _ => true
  | _ => false

/-- The options and the other arguments; unless the two may be mixed, the first argument that gives
no option ends the options. -/
def readArguments (switches : List Switch) (mixed : Bool) :
    List String → Option (Given × List String)
  | [] => some ([], [])
  | argument :: rest =>
    if argument = "--" then some ([], rest)
    else if givesOptions argument then
      match readOption switches argument with
      | none => none
      | some { given, pending := none } =>
        (readArguments switches mixed rest).map fun (others, left) => (given ++ others, left)
      | some { given, pending := some name } =>
        match rest with
        | [] => none
        | value :: rest =>
          (readArguments switches mixed rest).map fun (others, left) =>
            (given ++ (name, some value) :: others, left)
    else if mixed then
      (readArguments switches mixed rest).map fun (given, left) => (given, argument :: left)
    else some ([], argument :: rest)

/-- What is to be done with a layout source. -/
inductive Command where
  /-- Show or save its document. -/
  | compile (source : String) (output config : Option String) (metadata response raw : Bool)
  /-- Show its declarations and what became of them. -/
  | inspect (source : String) (config : Option String) (showSchema : Bool)
  /-- Check content against its document. -/
  | validate (content source : String) (config : Option String) (response showSchema : Bool)
  deriving DecidableEq, Repr

/-- What the arguments ask for. -/
inductive Request where
  | version
  | help
  | run (command : Command)
  | unusable
  deriving DecidableEq, Repr

/-- The option that asks for help. -/
def helpSwitch : Switch := { long := "help" }

/-- The options of the program. -/
def programSwitches : List Switch :=
  [{ long := "version", short := some 'v' }, { long := "verbose" }, helpSwitch]

/-- The option that names a file of settings. -/
def configSwitch : Switch := { long := "config", short := some 'c', takesValue := true }

/-- The options of the commands. -/
def commandSwitches : List (String × List Switch) :=
  [("compile",
    [{ long := "output", short := some 'o', takesValue := true }, configSwitch,
     { long := "metadata", short := some 'm' }, { long := "response-schema" }, { long := "raw" },
     helpSwitch]),
   ("inspect", [configSwitch, { long := "show-schema" }, helpSwitch]),
   ("validate",
    [{ long := "json", short := some 'j', takesValue := true },
     { long := "source", short := some 's', takesValue := true }, configSwitch,
     { long := "response-schema" }, { long := "show-schema" }, helpSwitch])]

/-- The command of a name with its options and files. -/
def commandOf (name : String) (given : Given) (files : List String) : Option Command :=
  let config := given.value? "config"
  match name, files with
  | "compile", [source] =>
    some (.compile source (given.value? "output") config (given.has "metadata")
      (given.has "response-schema") (given.has "raw"))
  | "inspect", [source] => some (.inspect source config (given.has "show-schema"))
  | "validate", [] => do
    return .validate (← given.value? "json") (← given.value? "source") config
      (given.has "response-schema") (given.has "show-schema")
  | _, _ => none

/-- What the arguments of a command ask for. -/
def commandRequest (name : String) (switches : List Switch) (arguments : List String) : Request :=
  match readArguments switches true arguments with
  | none => .unusable
  | some (given, files) =>
    if given.has "help" then .help
    else
      match commandOf name given files with
      | some command => .run command
      | none => .unusable

/-- What the arguments of the program ask for. A command has to be known before the version is
shown. -/
def request (arguments : List String) : Request :=
  match readArguments programSwitches false arguments with
  | none => .unusable
  | some (given, rest) =>
    if given.has "help" then .help
    else
      match rest with
      | [] => if given.has "version" then .version else .help
      | name :: rest =>
        match Entries.get? name commandSwitches with
        | none => .unusable
        | some switches =>
          if given.has "version" then .version else commandRequest name switches rest

end SlideContract.Console
