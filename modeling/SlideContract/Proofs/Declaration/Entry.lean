import SlideContract.Proofs.Declaration.Table

/-!
# The entry point in the source

An entry name that no table holds is looked for in the source. Of all declarations of such a name
only the first one in code is read: if its end cannot be found, those behind it are passed over, and
a declaration that opens in a comment can hide the one in code that it runs into.

* `entry?_name_iff`: when the entry point has an entry name;
* `entry?_behind_malformed`, `entry?_behind_comment`: a declaration that can be read and is not
  found.
-/

namespace SlideContract.Declaration
open Scan

variable {settings : Settings} {source : List Char} {table : Table}

/-- The first declaration in code of the name can be read. -/
def FirstReads (settings : Settings) (source : List Char) (name : String) : Prop :=
  ∃ head, firstInCode? (codeOffsets source) (heads (entryForm settings name.toList) source)
      = some head ∧
    (span? settings.builderNamespace.toList (source.drop head.stop)).isSome = true

lemma isSome_entryNamed?_iff (name : String) :
    (entryNamed? settings source (codeOffsets source) name).isSome = true ↔
      FirstReads settings source name := by
  unfold entryNamed? FirstReads
  cases firstInCode? (codeOffsets source) (heads (entryForm settings name.toList) source) with
  | none => simp
  | some head =>
    cases hspan : span? settings.builderNamespace.toList (source.drop head.stop) <;> simp [hspan]

/-- A table without entry names leaves the entry point to the source. -/
lemma entryInTable?_eq_none (h : ∀ name ∈ settings.entryNames, Entries.get? name table = none) :
    entryInTable? settings table = none := by
  unfold entryInTable?
  rw [List.findSome?_eq_none_iff]
  intro name hname
  rw [h name hname]
  rfl

/-- With no entry name in the table, the entry point has one exactly if the first declaration in
code of some entry name can be read. -/
theorem entry?_name_iff (h : ∀ name ∈ settings.entryNames, Entries.get? name table = none) :
    (∃ e, ( entry? settings source table).result = .ok (some e) ∧ e.name ∈ settings.entryNames) ↔
      ∃ name ∈ settings.entryNames, FirstReads settings source name := by
  have hsource : (entryInSource? settings source).isSome = true ↔
      ∃ name ∈ settings.entryNames, FirstReads settings source name := by
    unfold entryInSource?
    simp only [List.findSome?_isSome_iff, isSome_entryNamed?_iff]
  rw [← hsource]
  constructor
  · rintro ⟨e, he, hname⟩
    by_contra hnone
    rw [Option.not_isSome_iff_eq_none] at hnone
    unfold entry? at he
    rw [entryInTable?_eq_none h, hnone] at he
    -- the entry point would be one of the table, which has no entry name
    have hmem := mem_of_hinted_or_last (Except.ok.inj he)
    exact Entries.get?_eq_none_iff.1 (h e.name hname) (List.mem_map.2 ⟨_, hmem, rfl⟩)
  · intro hsome
    obtain ⟨e, he⟩ := Option.isSome_iff_exists.1 hsome
    refine ⟨e, ?_, (entryInSource_cases he).1⟩
    unfold entry?
    rw [entryInTable?_eq_none h, he]
    rfl

/-- A declaration without a call, and one of the same name that can be read. -/
def redeclaredSource : List Char :=
  "let Schema = z.object;\nlet Schema = z.object(\x7btitle: z.string()\x7d);".toList

/-- The second declaration stands in code and can be read, but only the first one is. -/
theorem entry?_behind_malformed :
    (∃ head ∈ heads (entryForm {} "Schema".toList) redeclaredSource,
      head.start ∈ codeOffsets redeclaredSource ∧
        span? "z".toList (redeclaredSource.drop head.stop)
          = some "z.object(\x7btitle: z.string()\x7d)".toList) ∧
    ( entry? {} redeclaredSource []).result = .ok none := by
  refine ⟨⟨⟨23, 13, "Schema".toList⟩, ?_⟩, ?_⟩
  · decide +kernel
  · decide +kernel

/-- A comment that ends like the opening of a declaration, and one behind it. -/
def commentedSource : List Char :=
  "// export\nlet Schema = z.object(\x7btitle: z.string()\x7d);".toList

/-- The declaration stands in code and can be read, but it is taken for a part of one that opens in
the comment. -/
theorem entry?_behind_comment :
    (10 ∈ codeOffsets commentedSource ∧
      entryForm {} "Schema".toList (some '\n') (commentedSource.drop 10)
        = some ("Schema".toList, 13) ∧
      span? "z".toList (commentedSource.drop 23)
        = some "z.object(\x7btitle: z.string()\x7d)".toList) ∧
    ( entry? {} commentedSource []).result = .ok none := by
  refine ⟨?_, ?_⟩
  · decide +kernel
  · decide +kernel

end SlideContract.Declaration
