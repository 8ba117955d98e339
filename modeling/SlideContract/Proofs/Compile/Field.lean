import Mathlib.Data.List.Sort
import SlideContract.Proofs.Compile.Built
import SlideContract.Proofs.Compile.Writing
import SlideContract.Proofs.Entries

/-!
# Reading the fields of an object

The fields of a written object come back with their names and expressions, and a field is required
exactly if its expression is not marked. The required names are gathered in ascending order, so that
the names that are required are found again as they were.

* `field?_text`: what is read from the text of a field;
* `Shape.Holds`: what a shape is worth after the fields that were added to it, and
  `Shape.Holds.foldl` for any fields, names that come again included;
* `shape_of_members`: the shape that the fields of a written object add up to.
-/

namespace SlideContract.Compile
open Scan Text Chain

/-! ## Ascending names -/

lemma ascending_insertName {name : String} {names : List String} (h : names.Pairwise (· < ·)) :
    (TypeTree.insertName name names).Pairwise (· < ·) := by
  -- along the names: the new one goes in front of the first that is not below it
  induction names with
  | nil => exact List.pairwise_singleton _ _
  | cons n rest ih =>
    rw [List.pairwise_cons] at h
    unfold TypeTree.insertName
    split
    · rename_i hlt
      rw [List.pairwise_cons, List.pairwise_cons]
      refine ⟨?_, h⟩
      intro m hm
      rcases List.mem_cons.1 hm with rfl | hm
      · exact hlt
      · exact String.lt_trans hlt (h.1 m hm)
    · rename_i hnot
      split
      · exact List.pairwise_cons.2 h
      · rename_i hne
        have hlt : n < name := by
          rw [← String.not_le]
          exact fun hle => hne (String.le_antisymm hle hnot)
        rw [List.pairwise_cons]
        refine ⟨?_, ih h.2⟩
        intro m hm
        rcases mem_insertName.1 hm with rfl | hm
        · exact hlt
        · exact h.1 m hm

/-! ## Fields -/

/-- What stands between two quotes is read up to the second one. -/
lemma untilQuote?_inside {quote : Char} (hquote : quote ≠ '\\') {name : List Char}
    (h : Inside quote name) (rest : List Char) :
    untilQuote? quote (name ++ quote :: rest) = some (name, rest) := by
  induction h with
  | nil =>
    rw [List.nil_append, untilQuote?, if_pos rfl]
    intro c rest' hc
    exact fun _ => hquote hc
  | @plain c cs hbackslash hne _ _ ih =>
    rw [List.cons_append, untilQuote?, if_neg hne, if_neg hbackslash, ih]
    · rfl
    · intro c' rest' hc
      exact fun _ => hbackslash hc
  | @escaped c cs _ ih =>
    rw [List.cons_append, List.cons_append, untilQuote?, ih]
    rfl

lemma fieldName?_key {name key : List Char} (h : IsKey name key) {rest : List Char}
    (hrest : EndsName rest) : fieldName? (key ++ rest) = some (name, rest) := by
  cases h with
  | bare hname =>
    have hread := identifier?_append hname hrest
    obtain ⟨c, cs, rfl, hstart, -⟩ := hname
    unfold fieldName?
    split
    · rename_i heq
      rw [(List.cons.inj heq).1] at hstart
      exact absurd hstart (by decide)
    · rename_i heq
      rw [(List.cons.inj heq).1] at hstart
      exact absurd hstart (by decide)
    · exact hread
  | quoted quote hquote hinside =>
    have hread : quote ≠ '\\' → untilQuote? quote (name ++ quote :: rest) = some (name, rest) :=
      fun hbackslash => untilQuote?_inside hbackslash hinside rest
    unfold enclosed
    rw [List.cons_append, List.append_assoc]
    rcases hquote with rfl | rfl
    · exact hread (by decide)
    · exact hread (by decide)

/-- What is read from a key, a colon and an expression, with blanks between them. -/
lemma field?_key {name key gap space expression : List Char} (hkey : IsKey name key)
    (hgap : Blanks gap) (hspace : Blanks space) (hstarts : Starts expression)
    (hne : expression ≠ []) :
    field? (key ++ (gap ++ ':' :: (space ++ expression))) = some ⟨name, expression⟩ := by
  have hpart := hkey.isPart
  have hends : EndsName (gap ++ ':' :: (space ++ expression)) :=
    endsName_append hgap (endsName_of_isSeparator (by decide) _)
  have hcolon :
      dropBlanks (gap ++ ':' :: (space ++ expression)) = ':' :: (space ++ expression) := by
    rw [dropBlanks_append hgap, dropBlanks_of_starts (starts_cons (by decide) _)]
  have hdrop : dropBlanks (space ++ expression) = expression := by
    rw [dropBlanks_append hspace, dropBlanks_of_starts hstarts]
  unfold field?
  rw [dropBlanks_of_starts (hpart.starts.append hpart.nonempty _), fieldName?_key hkey hends]
  simp only [Option.bind_eq_bind, Option.bind_some, hcolon, hdrop, List.isEmpty_eq_false_iff.2 hne]
  rfl

/-- What is read from the text of a field. -/
lemma field?_text {gap : List Char} {required : List String} {m : Member} (hgap : Blanks gap)
    (hkey : WritesKey m.name.toList m.key) (hcalls : ∀ call ∈ m.calls, call.Spelled)
    (hne : m.calls ≠ []) :
    field? (m.text gap required) = some ⟨m.name.toList, render (m.expression required)⟩ := by
  have hexpression := @isPart_expression required m hcalls hne
  exact field?_key hkey.isKey blanks_nil hgap hexpression.starts hexpression.nonempty

/-- A field is optional exactly if it is not required. -/
lemma isOptional_expression {settings : Settings} (hnamespace : settings.builderNamespace = "z")
    {required : List String} {m : Member} (h : Writes m.tree m.calls) :
    isOptional settings (render (m.expression required)) = decide (m.name ∉ required) := by
  obtain ⟨hcalls, hne⟩ := spelled_of_writes h
  have hexpression := @isPart_expression required m hcalls hne
  have hparse := parse_render
    (fun call hcall => (@spelled_expression required m hcalls call hcall).legible)
    (show m.expression required ≠ [] by simp [Member.expression, hne])
  obtain ⟨constructor, argument, modifiers, hbuilder, hnames⟩ := builder_of_writes h
  have hmodifiers : modifiers.any marksOptional = false := by
    rw [List.any_eq_false]
    intro call hcall
    unfold marksOptional
    rcases (hnames call hcall).1 with hname | hname
    · simp [hname]
    · simp [hname]
  -- behind the namespace and the constructor stand only bounds, and the mark if the name is not
  -- required
  have hhead : Kind.headLength settings (m.expression required) = 2 := by
    unfold Member.expression
    rw [hbuilder]
    simp [builder, Kind.headLength, Kind.isNamespace, hnamespace]
  unfold isOptional
  rw [withoutDefaults_of_tame hexpression.tame,
    trim_of_starts_stops hexpression.starts hexpression.stops]
  simp only [hparse, hhead]
  unfold Member.expression
  rw [hbuilder]
  show List.any (modifiers ++ _) marksOptional = _
  rw [List.any_append, hmodifiers, Bool.false_or]
  by_cases hrequired : m.name ∈ required
  · simp [hrequired]
  · simp [hrequired, marksOptional, optionalCall, Call.isCalled]

/-! ## Shapes -/

section Shapes

variable {settings : Settings} {inner : List Char → Run TypeTree} {trees : List Char → TypeTree}

/-- The shape with one more field, of the type that is given for its expression. -/
def addField (settings : Settings) (trees : List Char → TypeTree) (shape : Shape)
    (field : String × List Char) : Shape :=
  let others := shape.required.filter (· ≠ field.1)
  { properties := Entries.set field.1 (trees field.2) shape.properties
    required :=
      if isOptional settings field.2 then others else TypeTree.insertName field.1 others }

/-- The shape has the fields in their order, and requires those whose expressions are not marked. -/
structure Shape.Holds (settings : Settings) (trees : List Char → TypeTree) (shape : Shape)
    (fields : List (String × List Char)) : Prop where
  properties : shape.properties = fields.map fun field => (field.1, trees field.2)
  ascending : shape.required.Pairwise (· < ·)
  required : ∀ name, name ∈ shape.required ↔
    ∃ expression ∈ Entries.get? name fields, isOptional settings expression = false

lemma Shape.Holds.empty : ({} : Shape).Holds settings trees [] :=
  ⟨rfl, List.Pairwise.nil, fun name => by simp [Entries.get?]⟩

/-- A field that is added takes the place of one of the same name. -/
lemma Shape.Holds.addField {shape : Shape} {fields : List (String × List Char)}
    (h : shape.Holds settings trees fields) (field : String × List Char) :
    (Compile.addField settings trees shape field).Holds settings trees
      (Entries.set field.1 field.2 fields) := by
  obtain ⟨name, expression⟩ := field
  -- apart from the name that is set, the required names are as before
  have hothers : ∀ other, other ∈ shape.required.filter (· ≠ name) ↔ other ≠ name ∧
      ∃ expression ∈ Entries.get? other fields, isOptional settings expression = false := by
    intro other
    rw [List.mem_filter, h.required, decide_eq_true_eq, and_comm]
  refine ⟨?_, ?_, ?_⟩
  · show Entries.set name (trees expression) shape.properties = _
    rw [h.properties]
    exact Entries.set_map trees name expression fields
  · have hascending := h.ascending.filter (· ≠ name)
    show (if isOptional settings expression then _ else _ : List String).Pairwise (· < ·)
    split
    · exact hascending
    · exact ascending_insertName hascending
  · intro other
    show other ∈ (if isOptional settings expression then _ else _ : List String) ↔ _
    by_cases hname : other = name
    · subst hname
      rw [Entries.get?_set_self]
      cases hoptional : isOptional settings expression with
      | true => simp [hoptional]
      | false => simp [mem_insertName, hoptional]
    · rw [Entries.get?_set_of_ne hname]
      split
      · rw [hothers]
        exact and_iff_right hname
      · rw [mem_insertName, hothers, or_iff_right hname]
        exact and_iff_right hname

/-- The fields that are added count as setting them in turn leaves them. -/
lemma Shape.Holds.foldl {shape : Shape} {fields : List (String × List Char)}
    (h : shape.Holds settings trees fields) (more : List (String × List Char)) :
    (more.foldl (Compile.addField settings trees) shape).Holds settings trees
      (more.foldl (fun fields field => Entries.set field.1 field.2 fields) fields) := by
  induction more generalizing shape fields with
  | nil => exact h
  | cons field more ih => exact ih (h.addField field)

/-- An entry adds the field that is read from it, with the type of its expression. -/
lemma addEntry_of_field? {entry name expression : List Char}
    (h : field? entry = some ⟨name, expression⟩) (shape : Shape) :
    addEntry inner settings shape entry = do
      let tree ← inner expression
      return addField settings (fun _ => tree) shape (String.ofList name, expression) := by
  unfold addEntry
  rw [h]
  rfl

/-- The types that runs end with, where they end with one. -/
def typesOf (inner : List Char → Run TypeTree) (text : List Char) : TypeTree :=
  ((inner text).result.toOption).getD .unknown

/-- The name of a field, and the text of its expression. -/
def Member.field (required : List String) (m : Member) : String × List Char :=
  (m.name, render (m.expression required))

lemma typesOf_of_pure {text : List Char} {tree : TypeTree} (h : inner text = pure tree) :
    typesOf inner text = tree := by
  unfold typesOf
  rw [h]
  rfl

variable {gap : List Char} {required : List String} {members : List Member}

/-- The texts of fields add the fields. -/
lemma foldlM_addEntry (hgap : Blanks gap) (hkeys : ∀ m ∈ members, WritesKey m.name.toList m.key)
    (htrees : ∀ m ∈ members, Writes m.tree m.calls)
    (hinner : ∀ m ∈ members, inner (render (m.expression required)) = pure m.tree)
    (shape : Shape) :
    (members.map (·.text gap required)).foldlM (addEntry inner settings) shape
      = pure ((members.map (·.field required)).foldl (addField settings (typesOf inner))
          shape) := by
  induction members generalizing shape with
  | nil => rfl
  | cons m rest ih =>
    obtain ⟨hcalls, hne⟩ := spelled_of_writes (htrees m List.mem_cons_self)
    have hfield := @field?_text gap required m hgap (hkeys m List.mem_cons_self) hcalls hne
    have hread := hinner m List.mem_cons_self
    have hstep : addEntry inner settings shape (m.text gap required)
        = pure (addField settings (typesOf inner) shape (m.field required)) := by
      rw [addEntry_of_field? hfield, hread, Run.pure_bind, String.ofList_toList]
      unfold addField Member.field
      rw [typesOf_of_pure hread]
    rw [List.map_cons, List.map_cons, List.foldlM_cons, List.foldl_cons, hstep, Run.pure_bind]
    exact ih (fun n hn => hkeys n (List.mem_cons_of_mem _ hn))
      (fun n hn => htrees n (List.mem_cons_of_mem _ hn))
      (fun n hn => hinner n (List.mem_cons_of_mem _ hn)) _

/-- The shape that the fields of an object add up to: with distinct names none takes the place of
another, and those that are not marked are the required ones. -/
theorem shape_of_members (hnamespace : settings.builderNamespace = "z") (hgap : Blanks gap)
    (hnames : (members.map (·.name)).Nodup) (hascending : required.Pairwise (· < ·))
    (hrequired : ∀ name ∈ required, name ∈ members.map (·.name))
    (hkeys : ∀ m ∈ members, WritesKey m.name.toList m.key)
    (htrees : ∀ m ∈ members, Writes m.tree m.calls)
    (hinner : ∀ m ∈ members, inner (render (m.expression required)) = pure m.tree) :
    (members.map (·.text gap required)).foldlM (addEntry inner settings) {}
      = pure ⟨members.map fun m => (m.name, m.tree), required⟩ := by
  have hdistinct : (Entries.names (members.map (·.field required))).Nodup := by
    unfold Entries.names
    rw [List.map_map]
    exact hnames
  -- what the fold keeps as its invariant says what the shape is once every field is added
  have hholds := (@Shape.Holds.empty settings (typesOf inner)).foldl
    (members.map (·.field required))
  rw [show List.foldl _ [] (members.map (·.field required)) = _ from
    Entries.ofPairs_of_nodup hdistinct] at hholds
  have htypes : (members.map (·.field required)).map (fun field => (field.1, typesOf inner field.2))
      = members.map fun m => (m.name, m.tree) := by
    rw [List.map_map]
    apply List.map_congr_left
    intro m hm
    exact congrArg (Prod.mk m.name) (typesOf_of_pure (hinner m hm))
  -- a name is required exactly if the expression it has last is not optional
  have hkept : ∀ name, (∃ expression ∈ Entries.get? name (members.map (·.field required)),
      isOptional settings expression = false) ↔ name ∈ required := by
    intro name
    constructor
    · rintro ⟨expression, hget, hmarked⟩
      obtain ⟨m, hm, heq⟩ := List.mem_map.1 (Entries.mem_of_get? hget)
      obtain ⟨rfl, rfl⟩ := Prod.mk.inj heq
      simpa [isOptional_expression hnamespace (htrees m hm)] using hmarked
    · intro hname
      obtain ⟨m, hm, rfl⟩ := List.mem_map.1 (hrequired name hname)
      refine ⟨_, Entries.get?_of_mem hdistinct (List.mem_map.2 ⟨m, hm, rfl⟩), ?_⟩
      simp [isOptional_expression hnamespace (htrees m hm), hname]
  have hsame := hholds.ascending.eq_of_mem_iff hascending fun name => by
    rw [hholds.required, hkept]
  rw [foldlM_addEntry hgap hkeys htrees hinner]
  congr 1
  exact congrArg₂ Shape.mk (hholds.properties.trans htypes) hsame

end Shapes

end SlideContract.Compile
