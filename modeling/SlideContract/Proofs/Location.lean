import Mathlib.Tactic.Common
import SlideContract.Location

/-!
# The order of locations

Locations are totally ordered, so that sorting by them puts every two in order.
-/

namespace SlideContract.Location

lemma stepLe_trans {a b c : Step} (hab : stepLe a b = true) (hbc : stepLe b c = true) :
    stepLe a c = true := by
  cases a <;> cases b <;> cases c <;>
    simp only [stepLe, decide_eq_true_eq, Bool.false_eq_true] at hab hbc ⊢
  · exact String.le_trans hab hbc
  · omega

lemma stepLe_total (a b : Step) : (stepLe a b || stepLe b a) = true := by
  cases a <;> cases b <;>
    simp only [stepLe, Bool.or_eq_true, decide_eq_true_eq, Bool.false_eq_true, or_true, true_or]
  · exact String.le_total _ _
  · omega

lemma stepLe_antisymm {a b : Step} (hab : stepLe a b = true) (hba : stepLe b a = true) :
    a = b := by
  cases a <;> cases b <;> simp only [stepLe, decide_eq_true_eq, Bool.false_eq_true] at hab hba
  · rw [String.le_antisymm hab hba]
  · rw [Int.le_antisymm hab hba]

/-- Locations are compared step by step, and the first difference decides. -/
lemma le_trans (a b c : Location) (hab : le a b = true) (hbc : le b c = true) :
    le a c = true := by
  induction a generalizing b c with
  | nil => rfl
  | cons s as ih =>
    cases b with
    | nil => exact absurd hab (by simp [le])
    | cons t bs =>
      cases c with
      | nil => exact absurd hbc (by simp [le])
      | cons u cs =>
        unfold le at hab hbc ⊢
        by_cases hst : s = t
        · by_cases htu : t = u
          · rw [if_pos hst] at hab
            rw [if_pos htu] at hbc
            rw [if_pos (hst.trans htu)]
            exact ih bs cs hab hbc
          · rw [if_neg htu] at hbc
            rw [if_neg (hst ▸ htu), hst]
            exact hbc
        · rw [if_neg hst] at hab
          by_cases htu : t = u
          · rw [if_neg (htu ▸ hst), ← htu]
            exact hab
          · rw [if_neg htu] at hbc
            -- steps that differ twice cannot come back to the first one
            have hsu : s ≠ u := by
              rintro rfl
              exact hst (stepLe_antisymm hab hbc)
            rw [if_neg hsu]
            exact stepLe_trans hab hbc

lemma le_total (a b : Location) : (le a b || le b a) = true := by
  induction a generalizing b with
  | nil => rfl
  | cons s as ih =>
    cases b with
    | nil => rfl
    | cons t bs =>
      unfold le
      by_cases hst : s = t
      · rw [if_pos hst, if_pos hst.symm]
        exact ih bs
      · rw [if_neg hst, if_neg (Ne.symm hst)]
        exact stepLe_total s t

end SlideContract.Location
