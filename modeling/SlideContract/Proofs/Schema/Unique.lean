import Mathlib.Data.List.Nodup
import Mathlib.Tactic.Common
import SlideContract.Proofs.Sorting
import SlideContract.Schema.Unique

/-!
# Unique strings

Distinct strings count as unique items. They can be compared, so it is neighbours after sorting that
are looked at; as sorting keeps the items, these are distinct as well.
-/

namespace SlideContract
namespace Json

/-- The items are strings. -/
def AllStrings (items : List Json) : Prop := ∀ item ∈ items, ∃ text, item = .str text

lemma eq_of_equal {a b : Json} (ha : ∃ text, a = .str text) (hb : ∃ text, b = .str text)
    (h : equal a b = true) : a = b := by
  obtain ⟨s, rfl⟩ := ha
  obtain ⟨t, rfl⟩ := hb
  rw [show s = t by simpa [equal] using h]

lemma hasEqualNeighbours_eq_false {items : List Json} (hitems : AllStrings items)
    (h : items.Nodup) : hasEqualNeighbours items = false := by
  induction items with
  | nil => rfl
  | cons a rest ih =>
    cases rest with
    | nil => rfl
    | cons b rest =>
      unfold hasEqualNeighbours
      rw [Bool.or_eq_false_iff]
      rw [List.nodup_cons] at h
      refine ⟨?_, ih (fun item hitem => hitems item (List.mem_cons_of_mem _ hitem)) h.2⟩
      rw [Bool.eq_false_iff]
      intro heq
      have hab : a = b := eq_of_equal (hitems a (by simp)) (hitems b (by simp)) heq
      exact h.1 (hab ▸ List.mem_cons_self)

lemma hasEqualPair_eq_false {items : List Json} (hitems : AllStrings items) (h : items.Nodup) :
    hasEqualPair items = false := by
  induction items with
  | nil => rfl
  | cons a rest ih =>
    unfold hasEqualPair
    rw [Bool.or_eq_false_iff]
    rw [List.nodup_cons] at h
    refine ⟨?_, ih (fun item hitem => hitems item (List.mem_cons_of_mem _ hitem)) h.2⟩
    rw [List.any_eq_false]
    intro b hb heq
    have hab : a = b :=
      eq_of_equal (hitems a (by simp)) (hitems b (List.mem_cons_of_mem _ hb)) heq
    exact h.1 (hab ▸ hb)

lemma allStrings_map (names : List String) : AllStrings (names.map .str) := by
  intro item hitem
  obtain ⟨name, -, rfl⟩ := List.mem_map.1 hitem
  exact ⟨name, rfl⟩

/-- Distinct strings are unique items, in whatever order they are compared. -/
theorem areUnique_strings {names : List String} (h : names.Nodup) :
    areUnique (names.map .str) = true := by
  have hnodup : (names.map Json.str).Nodup := h.map fun _ _ => Json.str.inj
  unfold areUnique
  split
  · rename_i ordered hordered
    have hperm : ordered.toList.Perm (names.map .str) := Sorting.perm_of_sort? hordered
    rw [hasEqualNeighbours_eq_false (fun item hitem => allStrings_map _ _ (hperm.mem_iff.1 hitem))
      (hperm.nodup_iff.2 hnodup)]
    rfl
  · rw [hasEqualPair_eq_false (allStrings_map names) hnodup]
    rfl

end Json
end SlideContract
