import SlideContract.Proofs.Compile.Keyed

/-!
# Objects entry by entry

The entries of an object are compiled by themselves: each is nested and closes its brackets in
order, so that none of its calls runs on into the next one. A field has the type of its expression,
and where a name comes again the later field takes the place of the earlier one, with its type and
with its mark. Slashes in front of a default are excepted, as elsewhere: where such a default is cut
out, a comment may begin that takes the entries behind it.

* `Reads.field?_trim`: the field of an entry, in the body of an object;
* `compile_entries`: the object of its entries;
* `compile_entries_slash`: behind a slash an entry may take the next one away.
-/

namespace SlideContract.Compile
open Scan Text Chain

variable {ctx : Context} {settings : Settings} {text expression : List Char}

/-! ## Entries -/

/-- What an entry of an object says: the name and the expression of a field, or nothing. -/
inductive Reads : List Char → Option (String × List Char) → Prop
  | field {name : String} {lead key gap space expression : List Char} (hlead : Blanks lead)
      (hkey : WritesKey name.toList key) (hgap : Blanks gap) (hspace : Blanks space)
      (hstarts : ∃ c ∈ expression.head?, isNameChar c = true) :
      Reads (lead ++ (key ++ (gap ++ ':' :: (space ++ expression)))) (some (name, expression))
  | skipped {text : List Char} (h : field? (trim (withoutDefaults text)) = none) : Reads text none

/-- An entry of an object, with the field that it writes. -/
structure ObjectEntry where
  text : List Char
  written : Option (String × List Char)
  contained : Contained text
  uncut : Uncut ',' text
  reads : Reads text written

/-- A nested text that begins with another character than a dot keeps it. -/
lemma head?_withoutDefaults {c : Char} (h : Nested text) (hhead : text.head? = some c)
    (hdot : c ≠ '.') : (withoutDefaults text).head? = some c := by
  refine h.kept (motive := fun text => text.head? = some c) ?_ hhead
  intro before call behind h _ hfound hhead
  cases before with
  | nil =>
    obtain ⟨-, -, rest, heq, -⟩ := h.run_call hfound
    rw [List.nil_append, heq] at hhead
    exact absurd (Option.some.inj hhead).symm hdot
  | cons d before => exact hhead

/-- The field of an entry has the name as it is written, and what is left of the expression. -/
lemma Reads.field?_trim {name : String} (h : Reads text (some (name, expression)))
    (hnested : Nested text) :
    Nested expression ∧ field? (trim (withoutDefaults text))
      = some ⟨name.toList, trim (withoutDefaults expression)⟩ := by
  cases h with
  | @field _ lead key gap space _ hlead hkey hgap hspace hstarts =>
    obtain ⟨c, hhead, hname⟩ := hstarts
    have hfront := markless_front hlead hkey.isKey hgap hspace
    have htext : lead ++ (key ++ (gap ++ ':' :: (space ++ expression)))
        = (lead ++ (key ++ (gap ++ ':' :: space))) ++ expression := by
      simp
    rw [htext] at hnested ⊢
    -- the front holds no default, so only the expression is cut, and its first character stays
    have hexpression := hnested.of_append hfront.balanced.final
    have hdot : c ≠ '.' := ne_of_not_mem_marks (not_mem_marks_of_isNameChar hname) (by decide)
    obtain ⟨trail, htrail, heq, hne⟩ := exists_trim_of_head
      (head?_withoutDefaults hexpression hhead hdot) (isBlank_of_isNameChar hname)
    have hpart := hkey.isKey.isPart
    have hstops : Stops (key ++ (gap ++ ':' :: (space ++ trim (withoutDefaults expression)))) := by
      have hbehind := (trim_ends (withoutDefaults expression)).2.append hne
        (key ++ (gap ++ ':' :: space))
      simpa using hbehind
    have htrim : trim ((lead ++ (key ++ (gap ++ ':' :: space))) ++ withoutDefaults expression)
        = key ++ (gap ++ ':' :: (space ++ trim (withoutDefaults expression))) := by
      have hblanks := trim_blanks hlead htrail (hpart.starts.append hpart.nonempty _) hstops
        (by simp [hpart.nonempty])
      rw [← hblanks]
      conv_lhs => rw [heq]
      simp
    refine ⟨hexpression, ?_⟩
    rw [hfront.withoutDefaults hexpression, htrim]
    exact field?_key hkey.isKey hgap hspace (trim_ends _).1 hne

/-! ## Fields -/

/-- The fields that some entries write. -/
def fieldsOf (entries : List ObjectEntry) : List (String × List Char) :=
  entries.filterMap (·.written)

variable {inner : List Char → Run TypeTree} {trees : List Char → TypeTree}

/-- The parts of an object's body add the fields that they write. -/
lemma foldlM_entries {entries : List ObjectEntry}
    (hvalue : ∀ field ∈ fieldsOf entries,
      (inner (trim (withoutDefaults field.2))).result = .ok (trees field.2)) (shape : Shape) :
    (((entries.map fun entry => trim (withoutDefaults entry.text)).filter
        fun part => !part.isEmpty).foldlM (addEntry inner settings) shape).result
      = .ok ((fieldsOf entries).foldl (addField settings trees) shape) := by
  -- along the entries: a skipped one leaves the shape, and a written one adds its field
  induction entries generalizing shape with
  | nil => rfl
  | cons entry rest ih =>
    obtain ⟨text, written, contained, uncut, reads⟩ := entry
    cases written with
    | none =>
      have hrest := ih hvalue shape
      have hskipped : field? (trim (withoutDefaults text)) = none := by
        cases reads with
        | skipped h => exact h
      rw [List.map_cons, List.filter_cons]
      split
      · rw [List.foldlM_cons, Run.result_bind]
        unfold addEntry
        rw [hskipped]
        exact hrest
      · exact hrest
    | some field =>
      obtain ⟨name, expression⟩ := field
      obtain ⟨hexpression, hfield⟩ := reads.field?_trim contained.nested
      have hne : (!(trim (withoutDefaults text)).isEmpty) = true := by
        rw [Bool.not_eq_true', List.isEmpty_eq_false_iff]
        intro hnil
        rw [hnil] at hfield
        exact absurd hfield (by simp [field?, fieldName?, dropBlanks, identifier?])
      have hstep : (addEntry inner settings shape (trim (withoutDefaults text))).result
          = .ok (addField settings trees shape (name, expression)) := by
        rw [addEntry_of_field? hfield, Run.result_bind,
          hvalue (name, expression) List.mem_cons_self, String.ofList_toList]
        unfold addField
        simp only [isOptional_withoutDefaults hexpression]
        rfl
      rw [List.map_cons, List.filter_cons, if_pos hne, List.foldlM_cons, Run.result_bind, hstep]
      exact ih (fun field hmem => hvalue field (List.mem_cons_of_mem _ hmem)) _

/-! ## Objects -/

/-- The text between the braces of an object with the entries. -/
def bodyOf (entries : List ObjectEntry) : List Char :=
  List.intercalate [','] (entries.map (·.text))

/-- The entries of an object are compiled by themselves. Its properties are the fields in the order
in which their names first come, each with the type of the last expression of that name, and the
names whose last expressions are not marked are required. -/
theorem compile_entries (hbuilder : IsIdentifier ctx.settings.builderNamespace.toList)
    (htable : Entries.has ctx.settings.builderNamespace ctx.table = false)
    {entries : List ObjectEntry} {levels : ℕ} {visiting : List String}
    (hvalue : ∀ field ∈ fieldsOf entries,
      (compile ctx levels visiting field.2).result = .ok (trees field.2)) :
    ∃ required,
      (compile ctx (levels + 1) visiting
          (withBody ctx.settings.builderNamespace (bodyOf entries))).result
        = .ok (.object ((Entries.ofPairs (fieldsOf entries)).map fun field =>
            (field.1, trees field.2)) required) ∧
      required.Pairwise (· < ·) ∧
      ∀ name, name ∈ required ↔
        ∃ expression ∈ Entries.get? name (Entries.ofPairs (fieldsOf entries)),
          isOptional ctx.settings expression = false := by
  have hcontained : ∀ part ∈ entries.map (·.text), Contained part := by
    intro part hpart
    obtain ⟨entry, -, rfl⟩ := List.mem_map.1 hpart
    exact entry.contained
  have hnested : Nested (bodyOf entries) :=
    nested_intercalate fun part hpart => (hcontained part hpart).nested
  -- the body is cut and split into what is left of each entry
  have hparts : splitTopLevel (withoutDefaults (bodyOf entries)) ','
      = (entries.map fun entry => trim (withoutDefaults entry.text)).filter
          fun part => !part.isEmpty := by
    unfold bodyOf
    rw [withoutDefaults_intercalate hcontained, splitTopLevel_intercalate separates_comma,
      List.map_map, List.map_map]
    · rfl
    · intro part hpart
      obtain ⟨text, htext, rfl⟩ := List.mem_map.1 hpart
      obtain ⟨entry, -, rfl⟩ := List.mem_map.1 htext
      have hentry := entry.contained.nested
      exact ⟨hentry.withoutDefaults.balanced, Uncut.withoutDefaults hentry entry.uncut⟩
  have hinner : ∀ field ∈ fieldsOf entries,
      (compile ctx levels visiting (trim (withoutDefaults field.2))).result
        = .ok (trees field.2) := by
    intro field hfield
    obtain ⟨entry, -, hwritten⟩ := List.mem_filterMap.1 hfield
    obtain ⟨name, expression⟩ := field
    have hreads := entry.reads
    rw [hwritten] at hreads
    rw [result_compile_withoutDefaults (hreads.field?_trim entry.contained.nested).1]
    exact hvalue _ hfield
  obtain ⟨hproperties, hascending, hrequired⟩ :=
    (@Shape.Holds.empty ctx.settings trees).foldl (fieldsOf entries)
  refine ⟨_, ?_, hascending, hrequired⟩
  rw [compile_withBody hbuilder htable hnested, Run.result_bind]
  unfold shapeOf
  rw [hparts, foldlM_entries hinner]
  show Except.ok (TypeTree.object _ _) = _
  rw [hproperties]
  rfl

/-- The entry whose field names a declaration. -/
def referenceEntry (name declared : String) (hname : IsIdentifier name.toList)
    (hdeclared : IsIdentifier declared.toList) : ObjectEntry :=
  have hmarks : ∀ c ∈ name.toList ++ ':' :: declared.toList, c ∉ marks := by
    intro c hc
    rcases List.mem_append.1 hc with hc | hc
    · exact not_mem_marks_of_isIdentifier hname c hc
    rcases List.mem_cons.1 hc with rfl | hc
    · decide
    · exact not_mem_marks_of_isIdentifier hdeclared c hc
  have hnested : Nested (name.toList ++ ':' :: declared.toList) := by
    have hunmarked := Nested.nil.unmarked hmarks
    rwa [List.append_nil] at hunmarked
  { text := name.toList ++ ':' :: declared.toList
    written := some (name, declared.toList)
    contained := ⟨hnested, (neutral_iff_paired hnested.balanced.plain).1
      (neutral_still fun c hc => isStill_of_not_mem_marks (hmarks c hc))⟩
    uncut := .of_forall fun c hc => ne_of_not_mem_marks (hmarks c hc) (by decide)
    reads := by
      have hchars := hdeclared.isNameChar
      obtain ⟨c, rest, heq, -, -⟩ := hdeclared
      have hhead : ∃ c ∈ declared.toList.head?, isNameChar c = true :=
        ⟨c, by rw [heq]; rfl, hchars c (by rw [heq]; simp)⟩
      exact .field blanks_nil (.bare hname) blanks_nil blanks_nil hhead }

/-- A string and a number are declared. -/
def twoTypes : Context := { table := [("A", "z.string()".toList), ("B", "z.number()".toList)] }

/-- A name that comes again takes the later type. -/
theorem compile_entries_again :
    (compile twoTypes 3 [] (withBody "z" "f:A,f:B".toList)).result
      = .ok (.object [("f", .number {})] ["f"]) := by
  have hf : IsIdentifier "f".toList := isIdentifier_of_letters (by decide)
  have ha : IsIdentifier "A".toList := isIdentifier_of_letters (by decide)
  have hb : IsIdentifier "B".toList := isIdentifier_of_letters (by decide)
  let trees : List Char → TypeTree := fun text =>
    if text = ['A'] then .string {} else .number {}
  have hvalue : ∀ field ∈ fieldsOf [referenceEntry "f" "A" hf ha, referenceEntry "f" "B" hf hb],
      (compile twoTypes 2 [] field.2).result = .ok (trees field.2) := by
    intro field hfield
    rcases List.mem_cons.1 hfield with rfl | hfield
    · with_unfolding_all rfl
    · obtain rfl := List.mem_singleton.1 hfield
      with_unfolding_all rfl
  have hz : IsIdentifier twoTypes.settings.builderNamespace.toList :=
    isIdentifier_of_letters (by decide)
  -- both entries are read, and the object has what the fields say when the later one replaces the
  -- earlier
  obtain ⟨required, hresult, hascending, hrequired⟩ :=
    @compile_entries twoTypes trees hz rfl _ 2 [] hvalue
  have hnames : required = ["f"] := by
    refine hascending.eq_of_mem_iff (List.pairwise_singleton _ _) fun name => ?_
    rw [hrequired, List.mem_singleton]
    show (∃ expression ∈ Entries.get? name [("f", ['B'])], _) ↔ _
    by_cases hname : name = "f"
    · exact iff_of_true ⟨['B'], by rw [hname]; rfl, by decide +kernel⟩ hname
    · simp [Entries.get?, Ne.symm hname, hname]
  rw [hnames] at hresult
  exact hresult

/-- An entry with a default between a slash and a star, and one with the end of a comment. -/
def slashedBody : List Char :=
  "f: z.string().regex(/.default(a)*b/), g: z.string().regex(/x*/)".toList

/-- Where the default is cut out, a comment begins that runs over the comma. It takes the second
field away, and with it what the first one alone would be. -/
theorem compile_entries_slash :
    (compile {} 2 [] (withBody "z" slashedBody)).result
      = .ok (.object [("f", .string {})] ["f"]) ∧
    (compile {} 1 [] "z.string().regex(/.default(a)*b/)".toList).result = .ok .unknown ∧
    (compile {} 1 [] "z.string().regex(/x*/)".toList).result = .ok (.string {}) := by
  refine ⟨?_, ?_, ?_⟩
  · with_unfolding_all rfl
  · with_unfolding_all rfl
  · with_unfolding_all rfl

end SlideContract.Compile
