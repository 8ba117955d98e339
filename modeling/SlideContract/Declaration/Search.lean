import SlideContract.Scan.Span
import SlideContract.Settings.Basic
import SlideContract.Text.Word

/-!
# Searching for declarations

The heads of declarations, `const ItemSchema = ` and its kin, are searched from left to right
without overlap. A head is followed by the builder namespace and a dot, which belong to the
declaration but not to its head.
-/

namespace SlideContract.Declaration

/-- A head in a source: the index of its first character, its length, and the name it declares. -/
structure Head where
  start : Nat
  length : Nat
  name : List Char
  deriving DecidableEq, Repr

/-- The index behind a head. -/
def Head.stop (h : Head) : Nat := h.start + h.length

/-- The heads in a text, where `form` gives the name and length of the one that a text begins with,
knowing the character before it. The first character has the index `index`, and the first `skip`
characters belong to a head already found. -/
def headsFrom (form : Option Char → List Char → Option (List Char × Nat))
    (before : Option Char) (index skip : Nat) : List Char → List Head
  | [] => []
  | c :: rest =>
    if 0 < skip then headsFrom form (some c) (index + 1) (skip - 1) rest
    else
      match form before (c :: rest) with
      | some (name, length) =>
        { start := index, length, name } ::
          headsFrom form (some c) (index + 1) (length - 1) rest
      | none => headsFrom form (some c) (index + 1) 0 rest

/-- The heads of a form in a source. -/
def heads (form : Option Char → List Char → Option (List Char × Nat)) (source : List Char) :
    List Head :=
  headsFrom form none 0 0 source

/-- A word may begin behind the character `before`. -/
def atWordStart (before : Option Char) : Bool := !(before.any Text.isWord)

/-- What follows a keyword and the blanks behind it, of which there is at least one. -/
def afterKeyword? (keyword : String) (text : List Char) : Option (List Char) := do
  let rest ← Text.after? keyword.toList text
  if (rest.head?).any Text.isBlank then some (Text.dropBlanks rest) else none

/-- What follows an equals sign that is no comparison, with blanks around it, if the builder
namespace and a dot come next. -/
def afterEquals? (namespaceName text : List Char) : Option (List Char) :=
  match Text.dropBlanks text with
  | '=' :: rest =>
    if rest.head? = some '=' then none else
    let rest := Text.dropBlanks rest
    if (Scan.afterNamespaceDot? namespaceName rest).isSome then some rest else none
  | _ => none

/-- The head of a constant whose name ends with the suffix of the settings, of all such names the
longest: the name and the length of the head. -/
def tableForm (settings : Settings) (before : Option Char) (text : List Char) :
    Option (List Char × Nat) := do
  if !atWordStart before then none else
  let rest ← afterKeyword? "const" text
  let run := (rest.takeWhile Text.isNameChar).length
  let suffix := settings.nameSuffix.toList
  (List.range (run + 1)).reverse.findSome? fun stem => do
    let more ← Text.after? suffix (rest.drop stem)
    let left ← afterEquals? settings.builderNamespace.toList more
    return (rest.take (stem + suffix.length), text.length - left.length)

/-- What follows a type annotation on one line, up to which an equals sign has to come directly;
the text itself if it begins with no colon. -/
def afterTypeMark? (text : List Char) : Option (List Char) :=
  match text with
  | ':' :: rest =>
    let annotation := rest.takeWhile fun c => c ≠ '=' && c ≠ '\n'
    let after := rest.drop annotation.length
    if annotation.isEmpty || after.head? ≠ some '=' then none else some after
  | _ => some text

/-- What follows the keyword of a variable declaration, exported or not. -/
def afterVariableKeyword? (text : List Char) : Option (List Char) :=
  ["const", "let", "var"].findSome? fun keyword => afterKeyword? keyword text

/-- What follows the name of a variable declaration whose keyword a text begins with. -/
def afterEntryName? (settings : Settings) (name text : List Char) : Option (List Char) := do
  let rest ← afterVariableKeyword? text
  let rest ← Text.after? name rest
  let rest ← afterTypeMark? (Text.dropBlanks rest)
  afterEquals? settings.builderNamespace.toList rest

/-- The head of a variable of the given name, which may be exported, of any keyword, and carry a
type annotation on one line. -/
def entryForm (settings : Settings) (name : List Char) (before : Option Char)
    (text : List Char) : Option (List Char × Nat) := do
  if !atWordStart before then none else
  let exported := afterKeyword? "export" text >>= afterEntryName? settings name
  let left ← exported.or (afterEntryName? settings name text)
  return (name, text.length - left.length)

/-- The first head that starts in code, given the indexes of code. -/
def firstInCode? (code : List Nat) (found : List Head) : Option Head :=
  found.find? fun h => code.contains h.start

end SlideContract.Declaration
