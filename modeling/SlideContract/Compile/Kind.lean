import SlideContract.Chain.Basic
import SlideContract.Chain.Removal
import SlideContract.Entries
import SlideContract.Settings.Basic

/-!
# Kinds of chains

A chain is a reference if its head names a declaration, and otherwise has the kind of the
constructor that is called on the builder namespace. Its modifiers are the calls behind that head.
-/

namespace SlideContract

/-- The names of declarations with their texts, in the order in which they were first found. -/
abbrev Table := List (String × List Char)

/-- What a chain describes, by its constructor. -/
inductive Kind where
  | reference
  | string
  | number
  | boolean
  | enum
  | array
  | object
  | unknown
  deriving DecidableEq, Repr

namespace Kind

/-- The word for a kind. -/
def word : Kind → String
  | .reference => "reference"
  | .string => "string"
  | .number => "number"
  | .boolean => "boolean"
  | .enum => "enum"
  | .array => "array"
  | .object => "object"
  | .unknown => "unknown"

/-- The kind that a constructor makes. Dates travel as strings, and a literal is an enumeration of
one value. -/
def ofConstructor (name : String) : Kind :=
  match name with
  | "object" => .object
  | "array" => .array
  | "string" => .string
  | "number" => .number
  | "boolean" => .boolean
  | "enum" => .enum
  | "date" => .string
  | "literal" => .enum
  | _ => .unknown

/-- The call stands for the builder namespace. -/
def isNamespace (settings : Settings) (c : Call) : Bool :=
  c.name == settings.builderNamespace && c.args.isNone

/-- The kind of a chain. -/
def ofChain (table : Table) (settings : Settings) : List Call → Kind
  | [] => .unknown
  | head :: rest =>
    if head.args.isNone && Entries.has head.name table then .reference
    else if isNamespace settings head then
      match rest with
      | constructor :: _ =>
        if constructor.isCalled then ofConstructor constructor.name else .unknown
      | [] => .unknown
    else .unknown

/-- The kind of an expression. -/
def ofText (table : Table) (settings : Settings) (text : List Char) : Kind :=
  match Chain.parse (Chain.withoutDefaults text) with
  | some calls => ofChain table settings calls
  | none => .unknown

/-- The number of calls before the modifiers of a chain: the namespace and the constructor, or the
name of a reference. -/
def headLength (settings : Settings) : List Call → Nat
  | head :: _ => if isNamespace settings head then 2 else 1
  | [] => 0

end Kind
end SlideContract
