import SlideContract.Declaration.Table
import SlideContract.Text.LowerCase

/-!
# The entry point

The declaration that describes a layout as a whole is, in this order: a declaration of the table
with an entry name; one with an entry name that stands in the source in some other form; the longest
whose name contains the hint, whatever the case; the last one.
-/

namespace SlideContract.Declaration

/-- A declaration chosen as the entry point. -/
structure Entry where
  name : String
  text : List Char
  deriving DecidableEq, Repr

/-- The first entry name that the table holds. -/
def entryInTable? (settings : Settings) (table : Table) : Option Entry :=
  settings.entryNames.findSome? fun name => (Entries.get? name table).map (⟨name, ·⟩)

/-- The declaration of an entry name that stands first in the code of a source, if its end is
found. -/
def entryNamed? (settings : Settings) (source : List Char) (code : List Nat) (name : String) :
    Option Entry := do
  let head ← firstInCode? code (heads (entryForm settings name.toList) source)
  let span ← Scan.span? settings.builderNamespace.toList (source.drop head.stop)
  return ⟨name, Scan.stripComments span⟩

/-- The first entry name that is declared in the source. -/
def entryInSource? (settings : Settings) (source : List Char) : Option Entry :=
  settings.entryNames.findSome? (entryNamed? settings source (Scan.codeOffsets source))

/-- The longer of two declarations, the first of equal ones. -/
def longer (best : Option Entry) (e : Entry) : Option Entry :=
  match best with
  | some b => if b.text.length < e.text.length then some e else some b
  | none => some e

/-- The longest declaration whose name contains the hint. -/
def hinted? (settings : Settings) (table : Table) : Option Entry :=
  let hint := Text.lower settings.containerHint.toList
  let found := table.filter fun (name, _) => Text.hasPart hint (Text.lower name.toList)
  found.foldl (fun best (name, text) => longer best ⟨name, text⟩) none

/-- The entry point of a source with the given table. -/
def entry? (settings : Settings) (source : List Char) (table : Table) : Run (Option Entry) := do
  match entryInTable? settings table with
  | some e => return some e
  | none =>
    match entryInSource? settings source with
    | some e =>
      Run.emit (.entryInSource e.name)
      return some e
    | none =>
      return (hinted? settings table).or (table.getLast?.map fun (name, text) => ⟨name, text⟩)

end SlideContract.Declaration
