import SlideContract.Proofs.Document.Sound
import SlideContract.Proofs.Edit.Response
import SlideContract.Proofs.Layout.Course

/-!
# Documents of layouts

Whatever a layout source says, and on whatever way it is answered, its document is usable: by the
fallback document, by that of a compiled tree, or by the fallback again after a fault.

* `usable_compile`: the document of every source is usable;
* `no_problems_of_compile`: neither it nor its response schema has problems.
-/

namespace SlideContract.Layout
open Document

/-- The document of a sound tree is usable, be it that of the tree or the fallback. -/
lemma usable_documentOf {name : String} {tree : TypeTree} (h : tree.Sound)
    {answered : Json × Bool} (hresult : (documentOf name tree).result = .ok answered) :
    Usable answered.1 := by
  rcases documentOf_cases hresult with ⟨rfl, -⟩ | ⟨document, hdocument, rfl, -⟩
  · exact usable_fallback
  · obtain ⟨document', hdocument', husable⟩ := usable_of_ofRoot h
    obtain rfl : document = document' := Except.ok.inj (hdocument.symm.trans hdocument')
    exact husable

/-- Every source is answered with a usable document. -/
theorem usable_compile (settings : Settings) (source : List Char) :
    Usable (compile settings source).document := by
  rcases compile_cases settings source with ⟨table, entry, answered, h⟩ | hgave
  · obtain ⟨tree, htree, hdocument, -⟩ := h.exists_tree
    rw [h.compile_eq]
    exact usable_documentOf (TypeTree.sound_of_compile htree) hdocument
  · rw [hgave.document]
    exact usable_fallback

/-- The document of every source and its response schema are without problems. -/
theorem no_problems_of_compile (settings : Settings) (source : List Char) :
    Schema.Strict.problems (compile settings source).document = .ok [] ∧
      ∃ answer, Edit.response (compile settings source).document = .ok answer ∧
        Schema.Strict.problems answer = .ok [] := by
  have husable := usable_compile settings source
  exact ⟨Edit.problems_of_usable husable, Edit.problems_response husable⟩

end SlideContract.Layout
