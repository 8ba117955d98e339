import Mathlib.Logic.Relation
import Mathlib.Tactic.Common
import SlideContract.Json.Basic

/-!
# Parts of JSON values

The items of a list and the members of an object are smaller than the whole, and so is what stands
inside of them. What holds of a value whenever it holds of everything smaller holds of every value.

* `Json.IsScalar`: a value without parts;
* `Json.induction_on_size`: induction over the parts of a value, however deep they stand;
* `Json.forall_reached_iff`: what holds of all objects that steps from an object lead to.
-/

namespace SlideContract.Json

/-- A value that is no list and no object. -/
def IsScalar : Json → Prop
  | .arr _ | .obj _ => False
  | _ => True

lemma sizeOf_item_lt {item : Json} {items : List Json} (h : item ∈ items) :
    sizeOf item < sizeOf (Json.arr items) := by
  have hlt := List.sizeOf_lt_of_mem h
  rw [Json.arr.sizeOf_spec]
  omega

lemma sizeOf_member_lt {name : String} {value : Json} {members : List (String × Json)}
    (h : (name, value) ∈ members) : sizeOf value < sizeOf (Json.obj members) := by
  have hlt := List.sizeOf_lt_of_mem h
  rw [Prod.mk.sizeOf_spec] at hlt
  rw [Json.obj.sizeOf_spec]
  omega

/-- What holds of a value if it holds of everything smaller holds of every value. -/
theorem induction_on_size {P : Json → Prop}
    (h : ∀ value, (∀ part, sizeOf part < sizeOf value → P part) → P value) (value : Json) :
    P value := by
  generalize hsize : sizeOf value = size
  induction size using Nat.strongRecOn generalizing value with
  | ind size ih =>
    subst hsize
    exact h value fun part hlt => ih _ hlt part rfl

/-- What steps from an object lead to is the object itself, and what they lead to behind the first
of them. -/
lemma forall_reached_iff {Step : Json → Json → Prop} {Fine : List (String × Json) → Prop}
    {members : List (String × Json)} :
    (∀ node, Relation.ReflTransGen Step (.obj members) (.obj node) → Fine node) ↔
      Fine members ∧ ∀ child, Step (.obj members) child →
        ∀ node, Relation.ReflTransGen Step child (.obj node) → Fine node := by
  constructor
  · exact fun h => ⟨h members .refl, fun child hstep node hrest => h node (.head hstep hrest)⟩
  · rintro ⟨hself, hbelow⟩ node hreached
    rcases Relation.ReflTransGen.cases_head hreached with heq | ⟨child, hstep, hrest⟩
    · rw [← Json.obj.inj heq]
      exact hself
    · exact hbelow child hstep node hrest

/-- Steps lead from objects only, so from any other value they lead to none. -/
lemma not_reached {Step : Json → Json → Prop} {value : Json}
    (hvalue : ¬ ∃ members, value = .obj members)
    (hstep : ∀ child, Step value child → ∃ members, value = .obj members)
    (node : List (String × Json)) : ¬ Relation.ReflTransGen Step value (.obj node) := by
  intro hreached
  rcases Relation.ReflTransGen.cases_head hreached with heq | ⟨child, hfirst, -⟩
  · exact hvalue ⟨node, heq⟩
  · exact hvalue (hstep child hfirst)

end SlideContract.Json
