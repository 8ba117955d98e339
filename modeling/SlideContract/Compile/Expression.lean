import SlideContract.Chain.Literal
import SlideContract.Compile.Modifiers
import SlideContract.Run

/-!
# Compiling expressions

An expression is compiled by the kind of its chain: references are replaced by the declarations
they name, items and fields are compiled in turn, and modifiers set bounds. Whatever is not
understood becomes an unknown fragment and leaves an event.

The recursion goes down on the number of levels that remain below the ceiling, so that it ends even
if declarations refer to themselves; a reference to a declaration that is being compiled is cut.
-/

namespace SlideContract.Compile

/-- The declarations that references may name, and the settings. -/
structure Context where
  table : Table := []
  settings : Settings := {}

/-- The place of the last call of `array` among the modifiers of a chain, if there is one. -/
def arraySuffix? (settings : Settings) (calls : List Call) : Option Nat :=
  let offset := Kind.headLength settings calls
  let places := (List.range calls.length).filter fun i =>
    offset ≤ i && (calls[i]?).any fun call => call.isCalled && call.name == "array"
  places.getLast?

/-- An entry of an object literal: a bare or quoted name, a colon, and an expression. -/
structure Field where
  name : List Char
  expression : List Char
  deriving DecidableEq, Repr

/-- The characters before the next quote that is not escaped, and what follows that quote. -/
def untilQuote? (quote : Char) : List Char → Option (List Char × List Char)
  | [] => none
  | '\\' :: c :: rest => (untilQuote? quote rest).map fun (cs, after) => ('\\' :: c :: cs, after)
  | c :: rest =>
    if c = quote then some ([], rest)
    else if c = '\\' then none
    else (untilQuote? quote rest).map fun (cs, after) => (c :: cs, after)

/-- The name that an entry begins with, as it is written, and what follows it. -/
def fieldName? (text : List Char) : Option (List Char × List Char) :=
  match text with
  | '\x22' :: rest => untilQuote? '\x22' rest
  | '\x27' :: rest => untilQuote? '\x27' rest
  | _ => Chain.identifier? text

/-- The field that an entry of an object literal writes; spreads and shorthand names are none. -/
def field? (entry : List Char) : Option Field := do
  let (name, rest) ← fieldName? (Text.dropBlanks entry)
  match Text.dropBlanks rest with
  | ':' :: rest =>
    let expression := Text.dropBlanks rest
    if expression.isEmpty then none else some { name, expression }
  | _ => none

/-- The type of a call of `literal` or `enum`, if its argument is one that is supported. -/
def enumType (constructor : Call) (text : List Char) : Run TypeTree := do
  let argument := firstArgument constructor.args
  if constructor.name == "literal" then
    match Chain.unquote argument with
    | some value => return .enum [String.ofList value]
    | none =>
      Run.emit (.unsupportedLiteral text)
      return .unknown
  else if argument.head? == some '[' && argument.getLast? == some ']' then
    let items := Scan.splitTopLevel (argument.drop 1).dropLast ','
    let values := items.map fun item => (Chain.unquote item).getD (Text.trim item)
    return .enum ((values.filter fun value => !value.isEmpty).map String.ofList)
  else
    Run.emit (.openEnum argument)
    return .enum []

/-- The type of an array whose items are compiled by `inner`. -/
def arrayType (inner : List Char → Run TypeTree) (constructor : Call) (modifiers : List Call) :
    Run TypeTree := do
  let text := firstArgument constructor.args
  let items ←
    if text.isEmpty then do
      Run.emit .itemless
      pure .unknown
    else inner text
  return .array (some items) (← Run.ofDigits (sizeBounds modifiers))

/-- The inside of the braces that an object's shape opens with, if they close. -/
def shapeBody? (shape : List Char) : Option (List Char) :=
  if shape.head? = some '\x7b' then
    (Scan.regionLength? shape).map fun n => (shape.drop 1).take (n - 2)
  else none

/-- The properties compiled so far, and the names required so far. -/
structure Shape where
  properties : List (String × TypeTree) := []
  required : List String := []

/-- The shape with one more entry, whose expression is compiled by `inner`. A name that comes again
takes the later type, and is required as the later entry says. -/
def addEntry (inner : List Char → Run TypeTree) (settings : Settings) (shape : Shape)
    (entry : List Char) : Run Shape := do
  match field? entry with
  | none =>
    Run.emit (.skipped entry)
    return shape
  | some field =>
    let tree ← inner field.expression
    let name := String.ofList field.name
    let others := shape.required.filter (· ≠ name)
    return {
      properties := Entries.set name tree shape.properties
      required :=
        if isOptional settings field.expression then others else TypeTree.insertName name others }

/-- The type of an object whose fields are compiled by `inner`. -/
def objectType (inner : List Char → Run TypeTree) (settings : Settings) (constructor : Call)
    (modifiers : List Call) : Run TypeTree := do
  let text := firstArgument constructor.args
  match shapeBody? text with
  | none =>
    Run.emit (.unsupportedShape text)
    return .empty
  | some body =>
    let shape ← (Scan.splitTopLevel body ',').foldlM (addEntry inner settings) {}
    let isPartial := modifiers.any fun call => call.isCalled && call.name == "partial"
    return .object shape.properties (if isPartial then [] else shape.required)

/-- The type that the reference `name` stands for, unless it is being compiled already. -/
def referenceType (inner : List String → List Char → Run TypeTree) (table : Table)
    (visiting : List String) (name : String) : Run TypeTree := do
  if visiting.contains name then
    Run.emit (.cycle name)
    return .unknown
  else
    Run.emit (.inlined name)
    inner (name :: visiting) ((Entries.get? name table).getD [])

/-- The type of a chain of a known kind that has no array suffix; `text` is what it was read
from. -/
def chainType (ctx : Context) (inner : List String → List Char → Run TypeTree)
    (visiting : List String) (text : List Char) (calls : List Call) : Run TypeTree :=
  let modifiers := calls.drop (Kind.headLength ctx.settings calls)
  let head := calls.headD default
  let constructor := calls.getD 1 default
  match Kind.ofChain ctx.table ctx.settings calls with
  | .reference => referenceType inner ctx.table visiting head.name
  | .string => do return .string (← Run.ofDigits (lengthBounds modifiers))
  | .number => do return .number (← Run.ofDigits (rangeBounds modifiers))
  | .boolean => return .boolean
  | .enum => enumType constructor text
  | .array => arrayType (inner visiting) constructor modifiers
  | .object => objectType (inner visiting) ctx.settings constructor modifiers
  | .unknown => return .unknown

/-- One level of compilation, where `inner` compiles what is nested below. -/
def expressionType (ctx : Context) (inner : List String → List Char → Run TypeTree)
    (visiting : List String) (expression : List Char) : Run TypeTree := do
  let text := Text.trim (Chain.withoutDefaults expression)
  let calls := (Chain.parse text).getD []
  if Kind.ofChain ctx.table ctx.settings calls = .unknown then
    Run.emit (.unrecognized text)
    return .unknown
  else
    match arraySuffix? ctx.settings calls with
    | some place =>
      let items ← inner visiting (Chain.render (calls.take place))
      return .array (some items) (← Run.ofDigits (sizeBounds (calls.drop (place + 1))))
    | none => chainType ctx inner visiting text calls

/-- The type of an expression, with `remaining` levels left below the ceiling. -/
def compile (ctx : Context) : Nat → List String → List Char → Run TypeTree
  | 0, _, expression => do
    Run.emit (.tooDeep ctx.settings.maxDepth expression)
    return .unknown
  | remaining + 1, visiting, expression =>
    expressionType ctx (compile ctx remaining) visiting expression

/-- The levels that remain below the ceiling at a depth. -/
def levels (settings : Settings) (depth : Int) : Nat := (settings.maxDepth + 1 - depth).toNat

/-- The type of an expression that stands at a depth, while the declarations `visiting` are being
compiled. -/
def expression (ctx : Context) (visiting : List String) (depth : Int) (text : List Char) :
    Run TypeTree :=
  compile ctx (levels ctx.settings depth) visiting text

end SlideContract.Compile
