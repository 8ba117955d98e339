/-!
# Ordered entries

Named values in the order in which the names first came. Setting a name that is already there
keeps its place and takes the new value.
-/

namespace SlideContract.Entries

variable {α : Type}

/-- The value of a name. -/
def get? (name : String) : List (String × α) → Option α
  | [] => none
  | (n, v) :: rest => if n = name then some v else get? name rest

/-- The name has a value. -/
def has (name : String) (entries : List (String × α)) : Bool := (get? name entries).isSome

/-- The names in order. -/
def names (entries : List (String × α)) : List String := entries.map (·.1)

/-- The entries with `name` set to `value`, in its old place or at the end. -/
def set (name : String) (value : α) : List (String × α) → List (String × α)
  | [] => [(name, value)]
  | (n, v) :: rest => if n = name then (n, value) :: rest else (n, v) :: set name value rest

/-- The entries without `name`. -/
def erase (name : String) (entries : List (String × α)) : List (String × α) :=
  entries.filter (·.1 ≠ name)

/-- The entries that setting each pair in turn leaves. -/
def ofPairs (pairs : List (String × α)) : List (String × α) :=
  pairs.foldl (fun entries pair => set pair.1 pair.2 entries) []

@[simp] theorem get?_set_self (name : String) (value : α) (entries : List (String × α)) :
    get? name (set name value entries) = some value := by
  induction entries with
  | nil => simp [set, get?]
  | cons e rest ih =>
    obtain ⟨n, v⟩ := e
    by_cases h : n = name <;> simp [set, get?, h, ih]

theorem get?_set_of_ne {name other : String} (h : other ≠ name) (value : α)
    (entries : List (String × α)) : get? other (set name value entries) = get? other entries := by
  induction entries with
  | nil => simp [set, get?, h.symm]
  | cons e rest ih =>
    obtain ⟨n, v⟩ := e
    by_cases hn : n = name
    · subst hn
      simp [set, get?, h.symm]
    · simp [set, get?, hn, ih]

@[simp] theorem get?_erase_self (name : String) (entries : List (String × α)) :
    get? name (erase name entries) = none := by
  induction entries with
  | nil => rfl
  | cons e rest ih =>
    obtain ⟨n, v⟩ := e
    by_cases hn : n = name
    · simpa [erase, hn] using ih
    · simpa [erase, get?, hn] using ih

theorem get?_erase_of_ne {name other : String} (h : other ≠ name)
    (entries : List (String × α)) : get? other (erase name entries) = get? other entries := by
  induction entries with
  | nil => rfl
  | cons e rest ih =>
    obtain ⟨n, v⟩ := e
    by_cases hn : n = name
    · subst hn
      simpa [erase, get?, h.symm] using ih
    · by_cases ho : n = other
      · simp [erase, get?, ho, h]
      · simpa [erase, get?, hn, ho] using ih

/-- A name has a value exactly if it is among the names. -/
theorem has_iff_mem_names (name : String) (entries : List (String × α)) :
    has name entries = true ↔ name ∈ names entries := by
  induction entries with
  | nil => simp [has, get?, names]
  | cons e rest ih =>
    obtain ⟨n, v⟩ := e
    by_cases hn : n = name
    · simp [has, get?, names, hn]
    · simpa [has, get?, names, hn, Ne.symm hn] using ih

end SlideContract.Entries
