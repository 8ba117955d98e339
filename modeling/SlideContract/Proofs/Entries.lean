import Mathlib.Data.List.Nodup
import Mathlib.Tactic.Common
import SlideContract.Entries

/-!
# Names of entries

Setting a name adds it at the end unless it is there, so that distinct names stay distinct. With
distinct names, looking a name up and finding its entry in the list are the same, and setting pairs
behind others overrides the entries of these by those that the pairs alone leave.
-/

namespace SlideContract.Entries

variable {α β : Type}

@[simp] lemma names_nil : names ([] : List (String × α)) = [] := rfl

@[simp] lemma names_cons (entry : String × α) (rest : List (String × α)) :
    names (entry :: rest) = entry.1 :: names rest := rfl

@[simp] lemma names_append (entries others : List (String × α)) :
    names (entries ++ others) = names entries ++ names others :=
  List.map_append

/-- A name that is set stays where it is, or comes last. -/
lemma names_set (name : String) (value : α) (entries : List (String × α)) :
    names (set name value entries)
      = if name ∈ names entries then names entries else names entries ++ [name] := by
  induction entries with
  | nil => rfl
  | cons entry rest ih =>
    obtain ⟨n, v⟩ := entry
    by_cases hn : n = name
    · simp [set, hn]
    · rw [set, if_neg hn, names_cons, ih]
      by_cases hrest : name ∈ names rest
      · simp [hrest]
      · simp [hrest, Ne.symm hn]

/-- A new name is set at the end. -/
lemma set_of_not_mem {name : String} {value : α} {entries : List (String × α)}
    (h : name ∉ names entries) : set name value entries = entries ++ [(name, value)] := by
  induction entries with
  | nil => rfl
  | cons entry rest ih =>
    obtain ⟨n, v⟩ := entry
    rw [names_cons, List.mem_cons, not_or] at h
    rw [set, if_neg (Ne.symm h.1), ih h.2]
    rfl

/-- Pairs with distinct names are entries as they stand. -/
lemma ofPairs_of_nodup {pairs : List (String × α)} (h : (names pairs).Nodup) :
    ofPairs pairs = pairs := by
  -- for the induction the pairs come behind entries that have other names
  have hbehind : ∀ entries : List (String × α), (names (entries ++ pairs)).Nodup →
      pairs.foldl (fun entries pair => set pair.1 pair.2 entries) entries = entries ++ pairs := by
    clear h
    induction pairs with
    | nil => exact fun entries _ => (List.append_nil entries).symm
    | cons pair rest ih =>
      intro entries hnodup
      have hnew : pair.1 ∉ names entries := by
        rw [names_append, names_cons] at hnodup
        exact fun hmem => (List.nodup_append'.1 hnodup).2.2 hmem List.mem_cons_self
      have hmoved : entries ++ pair :: rest = (entries ++ [pair]) ++ rest := by simp
      rw [hmoved] at hnodup ⊢
      rw [List.foldl_cons, set_of_not_mem hnew]
      exact ih (entries ++ [pair]) hnodup
  exact hbehind [] h

/-- Setting a name to the value that it has changes nothing. -/
lemma set_eq_self {name : String} {value : α} {entries : List (String × α)}
    (h : get? name entries = some value) : set name value entries = entries := by
  induction entries with
  | nil => cases h
  | cons entry rest ih =>
    obtain ⟨other, old⟩ := entry
    unfold get? at h
    unfold set
    split at h
    · rename_i hname
      rw [if_pos hname, Option.some.inj h]
    · rename_i hname
      rw [if_neg hname, ih h]

lemma mem_names_set {name other : String} {value : α} {entries : List (String × α)} :
    other ∈ names (set name value entries) ↔ other = name ∨ other ∈ names entries := by
  rw [names_set]
  split
  · rename_i h
    constructor
    · exact Or.inr
    · rintro (rfl | h')
      · exact h
      · exact h'
  · simp [or_comm]

/-- Names that are distinct stay so. -/
lemma nodup_names_set {name : String} {value : α} {entries : List (String × α)}
    (h : (names entries).Nodup) : (names (set name value entries)).Nodup := by
  rw [names_set]
  split
  · exact h
  · rename_i hnot
    rw [List.nodup_append]
    refine ⟨h, List.nodup_singleton name, ?_⟩
    intro n hn m hm
    rw [List.mem_singleton] at hm
    rintro rfl
    exact hnot (hm ▸ hn)

/-- An entry after a name is set is the new one or an old one. -/
lemma mem_set {name : String} {value : α} {entries : List (String × α)} {entry : String × α}
    (h : entry ∈ set name value entries) : entry = (name, value) ∨ entry ∈ entries := by
  induction entries with
  | nil => simpa [set] using h
  | cons e rest ih =>
    obtain ⟨n, v⟩ := e
    by_cases hn : n = name
    · rw [set, if_pos hn, List.mem_cons] at h
      rcases h with rfl | h
      · exact Or.inl (by rw [hn])
      · exact Or.inr (List.mem_cons_of_mem _ h)
    · rw [set, if_neg hn, List.mem_cons] at h
      rcases h with rfl | h
      · exact Or.inr List.mem_cons_self
      · exact (ih h).imp id (List.mem_cons_of_mem _)

/-- What is looked up is an entry. -/
lemma mem_of_get? {name : String} {value : α} {entries : List (String × α)}
    (h : get? name entries = some value) : (name, value) ∈ entries := by
  induction entries with
  | nil => simp [get?] at h
  | cons entry rest ih =>
    obtain ⟨n, v⟩ := entry
    by_cases hn : n = name
    · rw [get?, if_pos hn, Option.some.injEq] at h
      rw [hn, h]
      exact List.mem_cons_self
    · rw [get?, if_neg hn] at h
      exact List.mem_cons_of_mem _ (ih h)

/-- An entry is what is looked up, if the names are distinct. -/
lemma get?_of_mem {name : String} {value : α} {entries : List (String × α)}
    (hnodup : (names entries).Nodup) (h : (name, value) ∈ entries) :
    get? name entries = some value := by
  induction entries with
  | nil => simp at h
  | cons entry rest ih =>
    obtain ⟨n, v⟩ := entry
    rw [names_cons, List.nodup_cons] at hnodup
    rcases List.mem_cons.1 h with heq | hrest
    · obtain ⟨rfl, rfl⟩ := Prod.mk.inj heq
      simp [get?]
    · have hn : n ≠ name := by
        rintro rfl
        exact hnodup.1 (List.mem_map.2 ⟨_, hrest, rfl⟩)
      rw [get?, if_neg hn]
      exact ih hnodup.2 hrest

lemma get?_eq_none_iff {name : String} {entries : List (String × α)} :
    get? name entries = none ↔ name ∉ names entries := by
  rw [← has_iff_mem_names, has]
  cases get? name entries <;> simp

/-- Values may be changed before or after one of them is set. -/
lemma set_map (f : α → β) (name : String) (value : α) (entries : List (String × α)) :
    set name (f value) (entries.map fun entry => (entry.1, f entry.2))
      = (set name value entries).map fun entry => (entry.1, f entry.2) := by
  induction entries with
  | nil => rfl
  | cons entry rest ih =>
    obtain ⟨n, v⟩ := entry
    by_cases hn : n = name
    · simp [set, hn]
    · simpa [set, hn] using ih

/-! ## Overriding -/

/-- The entry with the value that others have under its name, if they have one. -/
def renewed (others : List (String × α)) (entry : String × α) : String × α :=
  (entry.1, (get? entry.1 others).getD entry.2)

/-- The entries with the values that others have under their names, each in its place, and behind
them the entries of the others under new names. -/
def overriddenBy (entries others : List (String × α)) : List (String × α) :=
  entries.map (renewed others) ++ others.filter fun entry => !has entry.1 entries

lemma get?_append (name : String) (entries others : List (String × α)) :
    get? name (entries ++ others) = (get? name entries).or (get? name others) := by
  induction entries with
  | nil => rfl
  | cons entry rest ih =>
    obtain ⟨n, v⟩ := entry
    by_cases hn : n = name
    · simp [get?, hn]
    · simp [get?, hn, ih]

lemma set_append (name : String) (value : α) (entries others : List (String × α)) :
    set name value (entries ++ others)
      = if has name entries then set name value entries ++ others
        else entries ++ set name value others := by
  induction entries with
  | nil => rfl
  | cons entry rest ih =>
    obtain ⟨n, v⟩ := entry
    by_cases hn : n = name
    · simp [set, has, get?, hn]
    · rw [List.cons_append, set, if_neg hn, ih, set, if_neg hn, has, has, get?, if_neg hn]
      split <;> rfl

lemma get?_filter (keeps : String → Bool) (name : String) (entries : List (String × α)) :
    get? name (entries.filter fun entry => keeps entry.1)
      = if keeps name then get? name entries else none := by
  induction entries with
  | nil => simp [get?]
  | cons entry rest ih =>
    obtain ⟨n, v⟩ := entry
    by_cases hn : n = name
    · subst hn
      by_cases hkeeps : keeps n = true <;> simp_all [get?]
    · by_cases hkeeps : keeps n = true <;> simp_all [get?]

lemma set_filter {keeps : String → Bool} {name : String} (hname : keeps name = true) (value : α)
    (entries : List (String × α)) :
    set name value (entries.filter fun entry => keeps entry.1)
      = (set name value entries).filter fun entry => keeps entry.1 := by
  induction entries with
  | nil => simp [set, hname]
  | cons entry rest ih =>
    obtain ⟨n, v⟩ := entry
    by_cases hn : n = name
    · subst hn
      simp [set, hname]
    · by_cases hkeeps : keeps n = true <;> simp_all [set]

lemma filter_set {keeps : String → Bool} {name : String} (hname : keeps name = false) (value : α)
    (entries : List (String × α)) :
    ((set name value entries).filter fun entry => keeps entry.1)
      = entries.filter fun entry => keeps entry.1 := by
  induction entries with
  | nil => simp [set, hname]
  | cons entry rest ih =>
    obtain ⟨n, v⟩ := entry
    by_cases hn : n = name
    · subst hn
      simp [set, hname]
    · by_cases hkeeps : keeps n = true <;> simp_all [set]

lemma get?_map_renewed (name : String) (others entries : List (String × α)) :
    get? name (entries.map (renewed others)) = (get? name entries).map (get? name others).getD := by
  induction entries with
  | nil => rfl
  | cons entry rest ih =>
    obtain ⟨n, v⟩ := entry
    by_cases hn : n = name
    · simp [get?, renewed, hn]
    · simpa [get?, renewed, hn] using ih

/-- What is looked up is the value of the others, or the old one if these have none. -/
theorem get?_overriddenBy (name : String) (entries others : List (String × α)) :
    get? name (overriddenBy entries others) = (get? name others).or (get? name entries) := by
  unfold overriddenBy
  rw [get?_append, get?_map_renewed, get?_filter (fun n => !has n entries), has]
  cases get? name entries with
  | none => simp
  | some v => cases get? name others <;> simp

/-- A name that is set in the others makes no difference for entries without it. -/
lemma map_renewed_of_not_mem {name : String} (value : α) (others : List (String × α))
    {entries : List (String × α)} (h : name ∉ names entries) :
    entries.map (renewed (set name value others)) = entries.map (renewed others) := by
  apply List.map_congr_left
  intro entry hentry
  have hne : entry.1 ≠ name := by
    rintro rfl
    exact h (List.mem_map.2 ⟨entry, hentry, rfl⟩)
  unfold renewed
  rw [get?_set_of_ne hne]

lemma map_renewed_of_mem {name : String} (value : α) (others : List (String × α))
    {entries : List (String × α)} (hnodup : (names entries).Nodup) (h : name ∈ names entries) :
    entries.map (renewed (set name value others))
      = set name value (entries.map (renewed others)) := by
  induction entries with
  | nil => exact absurd h List.not_mem_nil
  | cons entry rest ih =>
    obtain ⟨n, v⟩ := entry
    rw [names_cons, List.nodup_cons] at hnodup
    by_cases hn : n = name
    · subst hn
      rw [List.map_cons, List.map_cons, map_renewed_of_not_mem value others hnodup.1]
      simp [renewed, set]
    · have hrest : name ∈ names rest := (List.mem_cons.1 h).resolve_left (Ne.symm hn)
      rw [List.map_cons, List.map_cons, ih hnodup.2 hrest]
      simp [renewed, set, hn, get?_set_of_ne hn]

/-- A name may be set in the others before these override some entries, or in what comes of it. -/
lemma set_overriddenBy {entries : List (String × α)} (hnodup : (names entries).Nodup)
    (name : String) (value : α) (others : List (String × α)) :
    set name value (overriddenBy entries others)
      = overriddenBy entries (set name value others) := by
  have hrenewed : has name (entries.map (renewed others)) = has name entries := by
    rw [has, get?_map_renewed, Option.isSome_map, has]
  unfold overriddenBy
  rw [set_append, hrenewed]
  by_cases h : has name entries = true
  · rw [if_pos h, map_renewed_of_mem value others hnodup ((has_iff_mem_names _ _).1 h),
      @filter_set _ (fun n => !has n entries) name (by simp [h])]
  · have hmem : name ∉ names entries := fun hmem => h ((has_iff_mem_names _ _).2 hmem)
    rw [if_neg h, map_renewed_of_not_mem value others hmem,
      @set_filter _ (fun n => !has n entries) name (by simp [h])]

lemma overriddenBy_nil (entries : List (String × α)) : overriddenBy entries [] = entries := by
  show entries.map (fun entry => (entry.1, entry.2)) ++ [] = entries
  simp

/-- Setting pairs behind others overrides what the first ones leave. -/
theorem ofPairs_append (pairs others : List (String × α)) :
    ofPairs (pairs ++ others) = overriddenBy (ofPairs pairs) (ofPairs others) := by
  have hnodup : ∀ entries : List (String × α), (names entries).Nodup →
      (names (pairs.foldl (fun entries pair => set pair.1 pair.2 entries) entries)).Nodup := by
    induction pairs with
    | nil => exact fun entries h => h
    | cons pair pairs ih => exact fun entries h => ih _ (nodup_names_set h)
  -- one by one the others can be set in what overrides the entries
  have hset : ∀ entries later : List (String × α), (names entries).Nodup →
      others.foldl (fun entries pair => set pair.1 pair.2 entries) (overriddenBy entries later)
        = overriddenBy entries
          (others.foldl (fun entries pair => set pair.1 pair.2 entries) later) := by
    intro entries later h
    induction others generalizing later with
    | nil => rfl
    | cons other others ih => rw [List.foldl_cons, List.foldl_cons, set_overriddenBy h, ih]
  unfold ofPairs
  rw [List.foldl_append, ← hset _ [] (hnodup [] List.nodup_nil), overriddenBy_nil]

end SlideContract.Entries
