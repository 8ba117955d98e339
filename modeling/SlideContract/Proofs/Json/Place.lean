import SlideContract.Location
import SlideContract.Proofs.Json.Part

/-!
# Places in JSON values

A location leads from a value to its parts, through the items of lists by their indexes and through
the members of objects by their names.

* `Json.PartAt`: the part of a value at a location;
* `Json.HasNames`: what holds of all the names in a value;
* `Json.PartAt.forall_name`: it holds of the names on the way to a part.
-/

namespace SlideContract.Json

/-- A part of a value stands at a location. -/
inductive PartAt (part : Json) : Json → Location → Prop where
  | root : PartAt part part []
  | item {items : List Json} {item : Json} {i : ℕ} {rest : Location} (hitem : items[i]? = some item)
    (h : PartAt part item rest) : PartAt part (.arr items) (.index i :: rest)
  | member {members : List (String × Json)} {name : String} {value : Json} {rest : Location}
    (hmember : (name, value) ∈ members) (h : PartAt part value rest) :
    PartAt part (.obj members) (.name name :: rest)

/-- Every name of an object in the value is of a kind. -/
def HasNames (P : String → Prop) (value : Json) : Prop :=
  ∀ members location, PartAt (.obj members) value location → ∀ name ∈ Entries.names members, P name

variable {P : String → Prop} {part value : Json} {location : Location}

namespace HasNames

lemma of_isScalar (h : IsScalar value) : HasNames P value := by
  intro members location hpart
  cases hpart with
  | root => exact h.elim
  | item => exact h.elim
  | member => exact h.elim

lemma arr {items : List Json} (h : ∀ item ∈ items, HasNames P item) : HasNames P (.arr items) := by
  intro members location hpart
  cases hpart with
  | item hitem hrest => exact h _ (List.mem_of_getElem? hitem) members _ hrest

lemma obj {members : List (String × Json)} (h : ∀ m ∈ members, P m.1 ∧ HasNames P m.2) :
    HasNames P (.obj members) := by
  intro inner location hpart name hname
  cases hpart with
  | root =>
    obtain ⟨m, hm, rfl⟩ := List.mem_map.1 hname
    exact (h m hm).1
  | member hmember hrest => exact (h _ hmember).2 inner _ hrest name hname

end HasNames

/-- The names on the way to a part are of the kind that all names are of. -/
lemma PartAt.forall_name (h : PartAt part value location) (hnames : HasNames P value)
    {name : String} (hname : .name name ∈ location) : P name := by
  induction h with
  | root => exact absurd hname List.not_mem_nil
  | item hitem _ ih =>
    refine ih (fun members rest hpart => hnames members _ (.item hitem hpart)) ?_
    exact (List.mem_cons.1 hname).resolve_left nofun
  | member hmember _ ih =>
    rcases List.mem_cons.1 hname with heq | hname
    · rw [Step.name.inj heq]
      exact hnames _ [] .root _ (List.mem_map_of_mem hmember)
    · exact ih (fun members rest hpart => hnames members _ (.member hmember hpart)) hname

end SlideContract.Json
