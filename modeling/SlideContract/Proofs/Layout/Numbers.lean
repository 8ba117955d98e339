import SlideContract.Proofs.Compile.Range
import SlideContract.Proofs.Declaration.Table
import SlideContract.Proofs.Layout.Course

/-!
# The numbers of a layout's document

Every number of the document of a layout is an integer or a finite value, unless the source holds
the characters of a numeral that is rounded to infinity: then this may be a bound, which no document
in JSON can hold. No number of a document is a value that is no number.

* `numbers_compile`: the numbers of the document of a layout;
* `numbers_infinite`: infinity may be among them.
-/

namespace SlideContract.Layout
open Compile

variable {settings : Settings} {source : List Char} {table : Table} {entry : Declaration.Entry}
  {answered : Json × Bool}

lemma readFrom_fallback {x : Number} (h : x ∈ Document.fallback.numbers) : ReadFrom source x := by
  rw [Document.numbers_fallback] at h
  simp only [List.mem_cons, List.not_mem_nil, or_false] at h
  rcases h with rfl | rfl | rfl | rfl <;> exact .int _

/-- The numbers of the document of a tree are among its bounds, or in the fallback document. -/
lemma numbers_documentOf {name : String} {tree : TypeTree}
    (h : (documentOf name tree).result = .ok answered) {x : Number}
    (hx : x ∈ answered.1.numbers) : x ∈ tree.numbers ∨ ReadFrom source x := by
  rcases documentOf_cases h with ⟨rfl, -⟩ | ⟨document, hdocument, rfl, -⟩
  · exact Or.inr (readFrom_fallback hx)
  · rcases Document.numbers_of_ofRoot hdocument hx with hx | ⟨i, rfl⟩
    · exact Or.inl hx
    · exact Or.inr (.int i)

/-- The numbers of the document of an entry point are read of the source. -/
lemma Entered.readFrom (h : Entered settings source table entry answered) {x : Number}
    (hx : x ∈ answered.1.numbers) : ReadFrom source x := by
  obtain ⟨tree, htree, hdocument, -⟩ := h.exists_tree
  rcases numbers_documentOf hdocument hx with hx | hread
  · exact readFrom_of_compile (Declaration.sublist_entry h.collected h.chosen)
      (fun _ hmem => Declaration.sublist_of_mem_table h.collected hmem) htree x hx
  · exact hread

/-- Every number of the document of a layout, at whatever depth, is an integer or a finite value, or
the infinity that a numeral is rounded to whose characters stand in the source: one with a point or
an exponent whose magnitude is `2 ^ 1024 - 2 ^ 970` or more. -/
theorem numbers_compile (settings : Settings) (source : List Char) :
    ∀ x ∈ (compile settings source).document.numbers, ReadFrom source x := by
  intro x hx
  rcases compile_cases settings source with ⟨table, entry, answered, h⟩ | hgave
  · rw [h.compile_eq] at hx
    exact h.readFrom hx
  · rw [hgave.document] at hx
    exact readFrom_fallback hx

/-- A bound that is rounded to infinity stands in the document. -/
theorem numbers_infinite :
    (compile {} "const ASchema = z.array(z.number().max(1e400));".toList).document.numbers
      = [.real (.infinite false)] := by
  decide +kernel

end SlideContract.Layout
