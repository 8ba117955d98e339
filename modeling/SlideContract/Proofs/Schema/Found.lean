import Mathlib.Data.List.Perm.Basic
import SlideContract.Schema.Check

/-!
# What checks find

`Finds found breaches` says that a check went through and found violations at these places, of these
keywords, as often as they are listed. Checks one after the other find what they find together.

* `Finds.andThen`, `Finds.all`, `Finds.below`: how findings are put together;
* `violations_eq_ok_iff`: the violations of a schema;
* `finds_violatedIf`: a keyword is found broken if its condition holds.
-/

namespace SlideContract.Schema

namespace Found

lemma andThen_assoc (a b c : Found) : (a.andThen b).andThen c = a.andThen (b.andThen c) := by
  obtain ⟨violations, fault⟩ := a
  cases fault with
  | some fault => rfl
  | none =>
    obtain ⟨others, fault⟩ := b
    cases fault with
    | some fault => rfl
    | none => simp [andThen]

lemma all_append (founds others : List Found) :
    all (founds ++ others) = (all founds).andThen (all others) := by
  induction founds with
  | nil => rfl
  | cons found rest ih =>
    show found.andThen (all (rest ++ others)) = (found.andThen (all rest)).andThen (all others)
    rw [ih, andThen_assoc]

end Found

/-- A violation as a place and a keyword. -/
def Violation.key (v : Violation) : Location × String := (v.location, v.keyword.getD "None")

/-- A check goes through and finds violations at these places, of these keywords. -/
structure Finds (found : Found) (breaches : List (Location × String)) : Prop where
  fault : found.fault = none
  perm : (found.violations.map Violation.key).Perm breaches

namespace Finds

variable {a b : Found} {l m : List (Location × String)}

lemma nothing : Finds .nothing [] := ⟨rfl, .nil⟩

lemma one (v : Violation) : Finds (.one v) [v.key] := ⟨rfl, .refl _⟩

lemma of_perm (h : Finds a l) (hperm : l.Perm m) : Finds a m := ⟨h.fault, h.perm.trans hperm⟩

lemma andThen (ha : Finds a l) (hb : Finds b m) : Finds (a.andThen b) (l ++ m) := by
  unfold Found.andThen
  rw [ha.fault]
  refine ⟨hb.fault, ?_⟩
  rw [List.map_append]
  exact ha.perm.append hb.perm

/-- Checks one after the other find what each of them finds. -/
lemma all {α : Type} {items : List α} {check : α → Found} {breaches : α → List (Location × String)}
    (h : ∀ item ∈ items, Finds (check item) (breaches item)) :
    Finds (.all (items.map check)) (items.flatMap breaches) := by
  induction items with
  | nil => exact nothing
  | cons item rest ih =>
    rw [List.map_cons, List.flatMap_cons]
    exact (h item List.mem_cons_self).andThen (ih fun i hi => h i (List.mem_cons_of_mem _ hi))

/-- What is found in a part of a value is found below its step. -/
lemma below (h : Finds a l) (step : Step) :
    Finds (a.below step) (l.map fun b => (step :: b.1, b.2)) := by
  refine ⟨h.fault, ?_⟩
  have hkeys : (a.below step).violations.map Violation.key
      = (a.violations.map Violation.key).map fun b => (step :: b.1, b.2) := by
    unfold Found.below
    rw [List.map_map, List.map_map]
    rfl
  rw [hkeys]
  exact h.perm.map _

end Finds

/-- The violations of a schema are those that its check finds, if this goes through. -/
lemma violations_eq_ok_iff {schema v : Json} {found : List Violation} :
    violations schema v = .ok found ↔
      (check schema v).fault = none ∧
        (check schema v).violations.mergeSort (fun a b => Location.le a.location b.location)
          = found := by
  unfold violations Found.complete
  cases (check schema v).fault with
  | some fault => exact iff_of_false nofun nofun
  | none => exact ⟨fun h => ⟨rfl, Except.ok.inj h⟩, fun ⟨_, h⟩ => congrArg Except.ok h⟩

/-- A keyword is found broken if its condition holds. -/
lemma finds_violatedIf (k : Keyword) (v : Json) (condition : Bool) (message : String) :
    Finds (k.violatedIf v condition message) (if condition then [([], k.name)] else []) := by
  unfold Keyword.violatedIf
  cases condition with
  | true => exact .one _
  | false => exact .nothing

end SlideContract.Schema
