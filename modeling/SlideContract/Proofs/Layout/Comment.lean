import SlideContract.Layout.Compile
import SlideContract.Proofs.Declaration.Chain
import SlideContract.Proofs.Declaration.Table

/-!
# Layouts with comments

No comment reaches compilation: what the table holds and what the entry point is have lost theirs. A
comment in an argument list or behind the declaration does not change what is collected either, so
that the whole answer to such a layout is that to the layout without comments.

* `plain_of_table`, `plain_of_entry`: the texts that are compiled;
* `compile_stripComments`: the answer to a layout with comments.
-/

namespace SlideContract

namespace Declaration
open Scan Text

variable {settings : Settings} {source : List Char} {table : Table}

/-- The texts of the table hold no comments. -/
def Uncommented (table : Table) : Prop := ∀ declaration ∈ table, Plain {} declaration.2

/-- The declarations that are collected hold no comments. -/
theorem plain_of_table (h : (Declaration.table settings source).result = .ok table) :
    Uncommented table := by
  refine table_induction Uncommented (fun table name span _ huncommented declaration hmem => ?_)
    (fun _ hmem => absurd hmem List.not_mem_nil) h
  rcases Entries.mem_set hmem with rfl | hmem
  · exact plain_shed {} span
  · exact huncommented declaration hmem

/-- The entry point holds no comments. -/
theorem plain_of_entry {e : Entry} (h : Uncommented table)
    (hentry : ( entry? settings source table).result = .ok (some e)) : Plain {} e.text := by
  rcases entry_cases hentry with hmem | ⟨-, span, -, hspan⟩
  · exact h _ hmem
  · rw [hspan]
    exact plain_shed {} span

end Declaration

namespace Layout
open Scan Text Declaration

variable {stem text ending : List Char} {constructor : Call} {modifiers : List Call}

/-- Comments in the argument lists of a declared entry point and behind it change nothing about the
answer. -/
theorem compile_stripComments {maxDepth : ℤ} (h : Declarable Commented text constructor modifiers)
    (hstem : ∀ c ∈ stem, isNameChar c = true)
    (hname : String.ofList (stem ++ "Schema".toList) ∈ ({} : Settings).entryNames)
    (hending : ∀ c ∈ stripComments ending, c = ';' ∨ isBlank c = true) :
    compile { maxDepth := maxDepth } (stripComments (opening stem ++ (text ++ ending)))
      = compile { maxDepth := maxDepth } (opening stem ++ (text ++ ending)) := by
  obtain ⟨kept, -, -, -, -, htable⟩ :=
    @table_chain Commented stem text ending constructor modifiers maxDepth h (fun _ hargs => hargs)
      hstem hending
  have hstrip := @table_stripComments stem text ending constructor modifiers maxDepth h hstem
    hending
  -- the table holds an entry name, so that the source is not looked at again
  have hentry : ∀ source, entry? { maxDepth := maxDepth } source
      [(String.ofList (stem ++ "Schema".toList), stripComments kept)]
        = pure (some ⟨String.ofList (stem ++ "Schema".toList), stripComments kept⟩) :=
    entry?_single hname _
  unfold compile
  rw [hstrip, htable]
  unfold answer
  simp only [hentry]
  rfl

end Layout
end SlideContract
