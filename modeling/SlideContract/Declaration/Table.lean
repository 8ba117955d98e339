import SlideContract.Compile.Kind
import SlideContract.Declaration.Search
import SlideContract.Run

/-!
# The table of declarations

Every constant whose name ends with the suffix and whose value is a builder chain is collected
under its name, without comments. A constant that is declared again takes the later text in its old
place; one whose end cannot be found is skipped.
-/

namespace SlideContract.Declaration

/-- The table with the declaration of one head. -/
def collect (settings : Settings) (source : List Char) (table : Table) (head : Head) :
    Run Table := do
  let name := String.ofList head.name
  match Scan.span? settings.builderNamespace.toList (source.drop head.stop) with
  | none =>
    Run.emit (.malformed name (Text.lineBreaks (source.take head.start) + 1))
    return table
  | some span =>
    if Entries.has name table then Run.emit (.redeclared name)
    return Entries.set name (Scan.stripComments span) table

/-- The declarations of a source. -/
def table (settings : Settings) (source : List Char) : Run Table := do
  let code := Scan.codeOffsets source
  let found := (heads (tableForm settings) source).filter fun h => code.contains h.start
  let table ← found.foldlM (collect settings source) []
  Run.emit (.collected (Entries.names table))
  return table

end SlideContract.Declaration
