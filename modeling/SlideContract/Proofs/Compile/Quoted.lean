import SlideContract.Proofs.Chain.Standard
import SlideContract.Proofs.Compile.Keyed

/-!
# Quoted keys and quoted values

The values of an enumeration are what stands between their quotes with its escapes read, and the
name of a field is what stands between the quotes of its key as it is. The two agree exactly if
nothing but line breaks is escaped. The escapes of a standard literal are read like any others, so
that the values of an enumeration come back from standard literals exactly if they are printable.

* `compile_quotedKey`: an object whose key stands between quotes;
* `quotedKey_iff`: which of these objects have the content of the key for a name;
* `compile_enumeration`: an enumeration of values between quotes;
* `compile_standard_iff`: which values come back from standard literals.
-/

namespace SlideContract.Compile
open Scan Text Chain Json

variable {ctx : Context} {quote : Char} {body gap space : List Char} {levels : ℕ}
  {visiting : List String}

/-! ## Keys -/

/-- An object whose one field is a string, with the key. -/
def stringField (builder : String) (key gap space : List Char) : List Char :=
  withBody builder (keyed key gap space (withArgument builder "string" []))

lemma isIdentifier_string : IsIdentifier "string".toList := isIdentifier_of_letters (by decide)

lemma isIdentifier_enum : IsIdentifier "enum".toList := isIdentifier_of_letters (by decide)

lemma compile_string (hbuilder : IsIdentifier ctx.settings.builderNamespace.toList)
    (htable : Entries.has ctx.settings.builderNamespace ctx.table = false) (levels : ℕ)
    (visiting : List String) :
    compile ctx (levels + 1) visiting (withArgument ctx.settings.builderNamespace "string" [])
      = pure (.string {}) := by
  have hkind : Kind.ofChain ctx.table ctx.settings
      (constructed ctx.settings "string" (withoutDefaults []) []) = .string :=
    ofChain_constructed htable
  rw [compile_withArgument hbuilder htable isIdentifier_string (by decide) .nil]
  unfold chainType
  rw [hkind, headLength_constructed]
  rfl

lemma not_isOptional_string {settings : Settings}
    (hbuilder : IsIdentifier settings.builderNamespace.toList) :
    isOptional settings (withArgument settings.builderNamespace "string" []) = false := by
  have hspells := @spells_withArgument settings "string" [] hbuilder isIdentifier_string .nil
  have hcleared : cleared (constructed settings "string" [] [])
      = constructed settings "string" (withoutDefaults []) [] := rfl
  rw [isOptional_of_spells hspells, hcleared, headLength_constructed]
  rfl

/-- The name of a field is what stands between the quotes of its key, as it is. -/
theorem compile_quotedKey (hbuilder : IsIdentifier ctx.settings.builderNamespace.toList)
    (htable : Entries.has ctx.settings.builderNamespace ctx.table = false)
    (hquote : quote = '\x27' ∨ quote = '\x22') (h : Inside quote body) (hgap : Blanks gap)
    (hspace : Blanks space) :
    compile ctx (levels + 2) visiting
        (stringField ctx.settings.builderNamespace (enclosed quote body) gap space)
      = pure (.object [(String.ofList body, .string {})] [String.ofList body]) := by
  have hspells := @spells_withArgument ctx.settings "string" [] hbuilder isIdentifier_string .nil
  unfold stringField
  rw [compile_keyed hbuilder htable (.quoted quote hquote h) hgap hspace hspells,
    compile_withoutDefaults hspells.nested, compile_string hbuilder htable,
    isOptional_withoutDefaults hspells.nested, not_isOptional_string hbuilder]
  rfl

/-- The object has the content of its key for the name of its property exactly if the key escapes
nothing but line breaks. -/
theorem quotedKey_iff (hbuilder : IsIdentifier ctx.settings.builderNamespace.toList)
    (htable : Entries.has ctx.settings.builderNamespace ctx.table = false)
    (hquote : quote = '\x27' ∨ quote = '\x22') (h : Inside quote body) (hgap : Blanks gap)
    (hspace : Blanks space) :
    ∃ content, unquote (enclosed quote body) = some content ∧
      (compile ctx (levels + 2) visiting
          (stringField ctx.settings.builderNamespace (enclosed quote body) gap space)
        = pure (.object [(String.ofList content, .string {})] [String.ofList content]) ↔
          EscapesLines body) := by
  refine ⟨unescape body, unquote_enclosed (isQuote_of_key hquote) body, ?_⟩
  rw [compile_quotedKey hbuilder htable hquote h hgap hspace, ← unescape_eq_self_iff, Run.pure_inj]
  constructor
  · intro heq
    simpa [String.ofList_inj, eq_comm] using heq
  · intro heq
    rw [heq]

/-- An escaped quote stays escaped in the name of a field. -/
theorem quotedKey_escaped :
    (compile {} 2 [] "z.object(\x7b\"a\\\"b\": z.string()\x7d)".toList).result
        = .ok (.object [("a\\\"b", .string {})] ["a\\\"b"]) ∧
      unquote "\"a\\\"b\"".toList = some "a\"b".toList := by
  refine ⟨?_, by decide +kernel⟩
  with_unfolding_all rfl

/-! ## Values -/

/-- The expression of an enumeration of values between quotes. -/
def enumeration (builder : String) (gap : List Char) (items : List (Char × List Char)) :
    List Char :=
  withArgument builder "enum" (bracketed gap (items.map fun item => enclosed item.1 item.2))

/-- Each value stands between its quotes. -/
def AreInside (items : List (Char × List Char)) : Prop :=
  ∀ item ∈ items, isQuote item.1 = true ∧ Inside item.1 item.2

lemma AreInside.forall_part {items : List (Char × List Char)} (h : AreInside items) :
    ∀ part ∈ items.map fun item => enclosed item.1 item.2,
      IsPart part ∧ Markless part := by
  intro part hpart
  obtain ⟨item, hitem, rfl⟩ := List.mem_map.1 hpart
  obtain ⟨hquote, hinside⟩ := h item hitem
  exact ⟨isPart_enclosed hquote hinside, markless_enclosed hquote hinside⟩

/-- The values of an enumeration are what stands between their quotes with its escapes read, empty
ones left out. -/
theorem compile_enumeration (hbuilder : IsIdentifier ctx.settings.builderNamespace.toList)
    (htable : Entries.has ctx.settings.builderNamespace ctx.table = false)
    {items : List (Char × List Char)} (h : AreInside items) (hgap : Blanks gap) :
    compile ctx (levels + 1) visiting (enumeration ctx.settings.builderNamespace gap items)
      = pure (.enum (((items.map fun item => unescape item.2).filter
          fun value => !value.isEmpty).map String.ofList)) := by
  have hparts := h.forall_part
  have hvalues : (items.map fun item => enclosed item.1 item.2).map valueOf
      = items.map fun item => unescape item.2 := by
    rw [List.map_map]
    exact List.map_congr_left fun item hitem => valueOf_enclosed (h item hitem).1 item.2
  have htame : Tame (bracketed gap (items.map fun item => enclosed item.1 item.2)) :=
    .bracket rfl (.listed hgap fun part hpart => (hparts part hpart).1.tame)
  have hnested : Nested (bracketed gap (items.map fun item => enclosed item.1 item.2)) :=
    .bracket rfl (nested_listed hgap fun part hpart => (hparts part hpart).2.nested)
  have hkind : Kind.ofChain ctx.table ctx.settings (constructed ctx.settings "enum"
      (bracketed gap (items.map fun item => enclosed item.1 item.2)) []) = .enum :=
    ofChain_constructed htable
  unfold enumeration
  rw [compile_withArgument hbuilder htable isIdentifier_enum (by decide) hnested,
    withoutDefaults_of_tame htame, ← hvalues]
  unfold chainType
  rw [hkind]
  exact enumType_bracketed hgap (fun part hpart => (hparts part hpart).1) _

/-- The standard literals of some values. -/
def standardItems (values : List String) : List (Char × List Char) :=
  values.map fun value => (standardQuote, written value.toList)

/-- Values come back from an enumeration of their standard literals exactly if all their characters
are printable ASCII. -/
theorem compile_standard_iff (hbuilder : IsIdentifier ctx.settings.builderNamespace.toList)
    (htable : Entries.has ctx.settings.builderNamespace ctx.table = false)
    {values : List String} (hvalues : "" ∉ values) (hgap : Blanks gap) :
    compile ctx (levels + 1) visiting
        (enumeration ctx.settings.builderNamespace gap (standardItems values))
      = pure (.enum values) ↔ ∀ value ∈ values, ∀ c ∈ value.toList, IsPlainAscii c := by
  have hitems : AreInside (standardItems values) := by
    intro item hitem
    obtain ⟨value, -, rfl⟩ := List.mem_map.1 hitem
    exact ⟨show isQuote standardQuote = true by decide, inside_written _⟩
  have hread : (((standardItems values).map fun item => unescape item.2).filter
      fun value => !value.isEmpty).map String.ofList
        = values.map fun value => String.ofList (unescape (written value.toList)) := by
    unfold standardItems
    rw [List.map_map, List.filter_eq_self.2, List.map_map]
    · rfl
    · intro text htext
      obtain ⟨value, hvalue, rfl⟩ := List.mem_map.1 htext
      have hne : value ≠ "" := fun hempty => hvalues (hempty ▸ hvalue)
      simpa [unescape_eq_nil_iff, written_eq_nil_iff] using hne
  -- a value comes back on its own, so the list does exactly if each of its values does
  have hsame : ∀ value : String, String.ofList (unescape (written value.toList)) = id value ↔
      ∀ c ∈ value.toList, IsPlainAscii c := by
    intro value
    rw [id_eq, ← unescape_written_iff, ← String.toList_inj, String.toList_ofList]
  have hlists : (values.map fun value => String.ofList (unescape (written value.toList))) = values ↔
      ∀ value ∈ values, ∀ c ∈ value.toList, IsPlainAscii c := by
    have hmap := @List.map_inj_left _ _ values
      (fun value => String.ofList (unescape (written value.toList))) id
    rw [List.map_id] at hmap
    exact hmap.trans (forall₂_congr fun value _ => hsame value)
  rw [compile_enumeration hbuilder htable hitems hgap, hread, Run.pure_inj, TypeTree.enum.injEq]
  exact hlists

/-- A line break in a standard literal comes back as the letter of its escape. -/
theorem compile_standard_line :
    (compile {} 1 [] "z.enum([\"a\\nb\"])".toList).result = .ok (.enum ["anb"]) ∧
      (writtenString "a\nb").toList = "\"a\\nb\"".toList := by
  refine ⟨?_, by decide +kernel⟩
  with_unfolding_all rfl

end SlideContract.Compile
