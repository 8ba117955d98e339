import SlideContract.Declaration.Entry
import SlideContract.Proofs.Compile.Sublist
import SlideContract.Proofs.Entries

/-!
# The table and the entry point

The table comes about by setting names to spans of the source without their comments. The entry
point is one of its declarations, or a declaration of the source under a name that the table does
not have.

* `table_induction`: what every new declaration preserves holds of the table;
* `nodup_table`: the names of the table are distinct;
* `entry_cases`, `get?_entry`: where the text of the entry point comes from.
-/

namespace SlideContract.Declaration
open Scan
open scoped List

variable {settings : Settings} {source : List Char} {table : Table}

/-- One head leaves the table as it is, or sets its name to a span of the source without its
comments. -/
lemma collect_cases {table' : Table} {head : Head}
    (h : (collect settings source table head).result = .ok table') :
    table' = table ∨
      ∃ span, span <+ source ∧
        table' = Entries.set (String.ofList head.name) (stripComments span) table := by
  unfold collect at h
  simp only at h
  split at h
  · exact Or.inl (Except.ok.inj (show (Except.ok table : Except Fault Table) = _ from h)).symm
  · rename_i span hspan
    refine Or.inr ⟨span, (sublist_span? hspan).trans (List.drop_sublist _ _), ?_⟩
    -- a name that is there already makes no difference but for the event
    split at h
    · exact (Except.ok.inj (show (Except.ok _ : Except Fault Table) = _ from h)).symm
    · exact (Except.ok.inj (show (Except.ok _ : Except Fault Table) = _ from h)).symm

section Induction

variable (holds : Table → Prop)
  (hset : ∀ table name span, span <+ source → holds table →
    holds (Entries.set name (stripComments span) table))

include hset

lemma foldlM_collect_induction {heads : List Head} {table' : Table} (hstart : holds table)
    (h : (heads.foldlM (collect settings source) table).result = .ok table') : holds table' := by
  induction heads generalizing table with
  | nil =>
    have heq : table = table' :=
      Except.ok.inj (show (Except.ok table : Except Fault Table) = .ok table' from h)
    rwa [← heq]
  | cons head heads ih =>
    rw [List.foldlM_cons, Run.result_bind_eq_ok] at h
    obtain ⟨next, hnext, h⟩ := h
    refine ih ?_ h
    rcases collect_cases hnext with rfl | ⟨span, hspan, rfl⟩
    · exact hstart
    · exact hset _ _ _ hspan hstart

/-- What holds of the empty table and of any table with one more declaration holds of the table of a
source. -/
theorem table_induction (hempty : holds [])
    (h : (Declaration.table settings source).result = .ok table) : holds table := by
  unfold Declaration.table at h
  simp only [Run.result_bind_eq_ok] at h
  obtain ⟨collected, hcollected, -, -, heq⟩ := h
  have heq' : collected = table :=
    Except.ok.inj (show (Except.ok collected : Except Fault Table) = .ok table from heq)
  rw [← heq']
  exact foldlM_collect_induction holds hset hempty hcollected

end Induction

/-- The names of the table are distinct. -/
lemma nodup_table (h : (Declaration.table settings source).result = .ok table) :
    (Entries.names table).Nodup :=
  table_induction (fun table => (Entries.names table).Nodup)
    (fun _ _ _ _ hnodup => Entries.nodup_names_set hnodup) List.nodup_nil h

/-! ## The entry point -/

/-- The longer of two declarations is one of them. -/
lemma longer_cases {best : Option Entry} {candidate e : Entry}
    (h : longer best candidate = some e) : best = some e ∨ candidate = e := by
  unfold longer at h
  split at h
  · split at h
    · exact Or.inr (Option.some.inj h)
    · exact Or.inl h
  · exact Or.inr (Option.some.inj h)

lemma mem_of_foldl_longer {best : Option Entry} {e : Entry}
    (h : table.foldl (fun best (name, text) => longer best ⟨name, text⟩) best = some e) :
    best = some e ∨ (e.name, e.text) ∈ table := by
  induction table generalizing best with
  | nil => exact Or.inl h
  | cons declaration rest ih =>
    rcases ih h with hlonger | hrest
    · refine (longer_cases hlonger).imp_right ?_
      rintro rfl
      exact List.mem_cons_self
    · exact Or.inr (List.mem_cons_of_mem _ hrest)

/-- The longest declaration is one of the table. -/
lemma mem_of_hinted? {e : Entry} (h : hinted? settings table = some e) :
    (e.name, e.text) ∈ table := by
  unfold hinted? at h
  rcases mem_of_foldl_longer h with hnone | hmem
  · exact absurd hnone (by simp)
  · exact (List.mem_filter.1 hmem).1

/-- Where no entry name is declared, the entry point is a declaration of the table. -/
lemma mem_of_hinted_or_last {e : Entry}
    (h : (hinted? settings table).or (table.getLast?.map fun (name, text) => ⟨name, text⟩)
      = some e) : (e.name, e.text) ∈ table := by
  rcases Option.or_eq_some_iff.1 h with hhinted | ⟨-, hlast⟩
  · exact mem_of_hinted? hhinted
  · obtain ⟨⟨name, text⟩, hmem, rfl⟩ := Option.map_eq_some_iff.1 hlast
    exact List.mem_of_mem_getLast? hmem

/-- A declaration of the table is part of the source. -/
lemma sublist_of_mem_table (h : (Declaration.table settings source).result = .ok table)
    {declaration : String × List Char} (hmem : declaration ∈ table) : declaration.2 <+ source := by
  refine table_induction (fun table => ∀ declaration ∈ table, declaration.2 <+ source)
    (fun table name span hspan hrest declaration hmem => ?_)
    (fun _ hmem => absurd hmem List.not_mem_nil) h declaration hmem
  rcases Entries.mem_set hmem with rfl | hmem
  · exact (sublist_stripComments span).trans hspan
  · exact hrest declaration hmem

/-- A declaration that is found in the source alone has an entry name and no comments. -/
lemma entryInSource_cases {e : Entry} (h : entryInSource? settings source = some e) :
    e.name ∈ settings.entryNames ∧ ∃ span, span <+ source ∧ e.text = stripComments span := by
  obtain ⟨name, hmem, hname⟩ := List.exists_of_findSome?_eq_some h
  unfold entryNamed? at hname
  simp only [Option.bind_eq_bind, Option.bind_eq_some_iff] at hname
  obtain ⟨head, -, span, hspan, heq⟩ := hname
  rw [← Option.some.inj heq]
  exact ⟨hmem, span, (sublist_span? hspan).trans (List.drop_sublist _ _), rfl⟩

/-- The entry point is a declaration of the table, or one of the source that the table does not
have. -/
theorem entry_cases {e : Entry} (h : ( entry? settings source table).result = .ok (some e)) :
    (e.name, e.text) ∈ table ∨
      Entries.get? e.name table = none ∧ ∃ span, span <+ source ∧ e.text = stripComments span := by
  unfold entry? at h
  split at h
  · rename_i found hfound
    have heq : some found = some e := Except.ok.inj h
    rw [← Option.some.inj heq]
    obtain ⟨name, -, hname⟩ := List.exists_of_findSome?_eq_some hfound
    obtain ⟨text, htext, rfl⟩ := Option.map_eq_some_iff.1 hname
    exact Or.inl (Entries.mem_of_get? htext)
  · rename_i hnone
    split at h
    · rename_i found hfound
      have heq : some found = some e := Except.ok.inj h
      rw [← Option.some.inj heq]
      obtain ⟨hmem, hspan⟩ := entryInSource_cases hfound
      -- no entry name is in the table, or the source would not have been looked at
      refine Or.inr ⟨?_, hspan⟩
      exact Option.map_eq_none_iff.1 (List.findSome?_eq_none_iff.1 hnone _ hmem)
    · exact Or.inl (mem_of_hinted_or_last (Except.ok.inj h))

/-- The entry point is part of the source. -/
lemma sublist_entry {e : Entry} (htable : (Declaration.table settings source).result = .ok table)
    (h : ( entry? settings source table).result = .ok (some e)) : e.text <+ source := by
  rcases entry_cases h with hmem | ⟨-, span, hspan, heq⟩
  · exact sublist_of_mem_table htable hmem
  · rw [heq]
    exact (sublist_stripComments span).trans hspan

/-- If the table has the name of the entry point, it has its text. -/
lemma get?_entry {e : Entry} (htable : (Declaration.table settings source).result = .ok table)
    (h : ( entry? settings source table).result = .ok (some e))
    (hhas : Entries.has e.name table = true) : Entries.get? e.name table = some e.text := by
  rcases entry_cases h with hmem | ⟨hnone, -⟩
  · exact Entries.get?_of_mem (nodup_table htable) hmem
  · rw [Entries.has, hnone] at hhas
    exact absurd hhas (by decide)

end SlideContract.Declaration
