import SlideContract.Proofs.Document.Nesting
import SlideContract.Proofs.Layout.Course

/-!
# The ceiling of a layout's document

A layout is compiled from the outermost level on, so that its document nests no deeper than the
ceiling allows a tree to be high, unless the fallback document stands in, which knows no ceiling.

* `exists_height_of_documentOf`: a document of an entry point nests no deeper than the tree of it is
  high;
* `nests_below_ceiling`: the bounds on trees and on documents.
-/

namespace SlideContract.Layout
open Document

variable {settings : Settings} {source : List Char} {table : Table} {entry : Declaration.Entry}
  {answered : Json × Bool} {n : ℕ}

/-- A document other than the fallback document nests no deeper than a known tree is high. -/
lemma exists_height_of_documentOf {name : String} {tree : TypeTree}
    (h : (documentOf name tree).result = .ok answered) (hown : answered.2 = false)
    (hnests : Nests answered.1 n) : tree ≠ .unknown ∧ n ≤ tree.height := by
  have hknown : tree ≠ .unknown := by
    rintro rfl
    rw [← Except.ok.inj h] at hown
    exact absurd hown (by simp)
  rcases documentOf_cases h with ⟨rfl, -⟩ | ⟨document, hdocument, rfl, -⟩
  · exact absurd hown (by simp)
  · exact ⟨hknown, le_height_of_nests_ofRoot hknown hdocument hnests⟩

/-- The ceiling bounds the trees of expressions, and the documents of layouts. -/
theorem nests_below_ceiling :
    (∀ (ctx : Compile.Context) (visiting : List String) (depth : ℤ) (text : List Char)
      (tree : TypeTree), depth ≤ ctx.settings.maxDepth + 1 →
        (Compile.expression ctx visiting depth text).result = .ok tree →
          (tree.height : ℤ) ≤ ctx.settings.maxDepth - depth + 2) ∧
    ∀ (settings : Settings) (source : List Char) (n : ℕ),
      (compile settings source).usedFallback = false →
        Nests (compile settings source).document n → (n : ℤ) ≤ settings.maxDepth + 2 := by
  refine ⟨fun ctx visiting depth text tree => Compile.height_of_expression, ?_⟩
  intro settings source n hown hnests
  rcases compile_cases settings source with ⟨table, entry, answered, h⟩ | hgave
  · rw [h.compile_eq] at hown hnests
    obtain ⟨tree, htree, hdocument, -⟩ := h.exists_tree
    obtain ⟨hknown, hle⟩ := exists_height_of_documentOf hdocument hown hnests
    have hceiling := Compile.depth_le_of_known htree hknown
    have hheight := Compile.height_of_expression (Int.le_add_one hceiling) htree
    simp only at hheight
    omega
  · exact absurd (hgave.usedFallback.symm.trans hown) (by decide)

/-- Lists in a list, with a suffix for the inner ones. -/
def nestedLists : List Char := "z.array(z.array(z.number()).array())".toList

/-- A layout whose only field is a list. -/
def listLayout : List Char := "const ASchema = z.object(\x7ba: z.array(z.string())\x7d);".toList

/-- A tree and a document that reach their bounds. -/
theorem nests_below_ceiling_reached :
    (∃ tree, (Compile.expression { settings := { maxDepth := 2 } } [] 0 nestedLists).result
        = .ok tree ∧ tree.height = 4 ∧ (tree.height : ℤ) ≤ 2 - 0 + 2) ∧
    Nests (compile { maxDepth := 1 } listLayout).document 3 ∧ ((3 : ℕ) : ℤ) ≤ 1 + 2 := by
  obtain ⟨htrees, hdocuments⟩ := nests_below_ceiling
  have hnests : Nests (compile { maxDepth := 1 } listLayout).document 3 := by decide +kernel
  refine ⟨?_, hnests, hdocuments _ _ 3 (by decide +kernel) hnests⟩
  have hheight : (Compile.expression { settings := { maxDepth := 2 } } [] 0
      nestedLists).result.toOption.map TypeTree.height = some 4 := by
    decide +kernel
  cases htree : (Compile.expression { settings := { maxDepth := 2 } } [] 0 nestedLists).result with
  | error fault =>
    rw [htree] at hheight
    exact absurd hheight (by simp [Except.toOption])
  | ok tree =>
    rw [htree] at hheight
    exact ⟨tree, rfl, Option.some.inj hheight, htrees _ _ _ _ tree (by decide) htree⟩

end SlideContract.Layout
