import SlideContract.Proofs.Chain.Render
import SlideContract.Proofs.Compile.Parts

/-!
# What is read was written

Whatever is read of a text is made of characters of that text, in their order: comments, defaults,
blanks and separators go away, calls are written out again without the blanks between their parts,
and nothing is put in. So whatever a text has few of, its parts have few of.

* `sublist_splitTopLevel`: the parts of a list;
* `sublist_removeCalls`, `sublist_render`: a chain without some of its calls, and written out again;
* `sublist_of_mem_partsOf`: the texts that a chain is compiled from;
* `sublist_span?`: the declaration that a text begins with.
-/

namespace SlideContract
open Text
open scoped List

namespace Scan

variable {separator : Char} {text : List Char}

/-- A scan visits characters of the text in their order. -/
lemma sublist_visits (s : State) (index : ℕ) (text : List Char) :
    (visits s index text).map (·.char) <+ text := by
  fun_induction visits s index text with
  | case1 => exact List.Sublist.refl _
  | case2 s index c rest skipped hskipped ih => exact ih.cons_cons c
  | case3 s index c rest skipped hskipped ih => exact ih.trans (List.drop_sublist _ _)

lemma sublist_stripComments (text : List Char) : stripComments text <+ text :=
  sublist_visits {} 0 text

lemma sublist_of_mem_pieces {start : ℕ} {cuts : List ℕ} {piece : List Char}
    (h : piece ∈ pieces start text cuts) : piece <+ text := by
  induction cuts generalizing start text with
  | nil =>
    obtain rfl := List.mem_singleton.1 h
    exact List.Sublist.refl _
  | cons cut rest ih =>
    rcases List.mem_cons.1 h with rfl | h
    · exact List.take_sublist _ _
    · exact (ih h).trans (List.drop_sublist _ _)

/-- The parts of a list are parts of its text. -/
lemma sublist_splitTopLevel {part : List Char} (h : part ∈ splitTopLevel text separator) :
    part <+ text := by
  obtain ⟨piece, hpiece, rfl⟩ := List.mem_map.1 (List.mem_filter.1 h).1
  exact (sublist_trim _).trans ((sublist_stripComments _).trans (sublist_of_mem_pieces hpiece))

/-- A declaration is part of the text that it begins. -/
lemma sublist_span? {namespaceName span : List Char} (h : span? namespaceName text = some span) :
    span <+ text := by
  simp only [span?, Option.bind_eq_bind, Option.bind_eq_some_iff] at h
  obtain ⟨-, -, ⟨v, step⟩, -, h⟩ := h
  dsimp only at h
  split at h
  · rw [← Option.some.inj h]
    exact (sublist_trim _).trans ((List.take_sublist _ _).trans (sublist_dropBlanks text))
  · exact absurd h (by simp)

end Scan

namespace Chain

variable {text : List Char} {calls : List Call} {call : Call}

lemma sublist_removeCalls (names : List (List Char)) (text : List Char) :
    removeCalls names text <+ text := by
  fun_induction removeCalls names text with
  | case1 text hnone => exact List.Sublist.refl _
  | case2 text start length hfound hlength ih =>
    have hbehind : text.drop (start + length) <+ text.drop start := by
      rw [← List.drop_drop]
      exact List.drop_sublist _ _
    have hcut := (List.Sublist.refl (text.take start)).append hbehind
    rw [List.take_append_drop] at hcut
    exact ih.trans hcut

/-- What is read of an expression is part of it. -/
lemma sublist_trim_withoutDefaults (text : List Char) : trim (withoutDefaults text) <+ text :=
  (sublist_trim _).trans (sublist_removeCalls _ text)

/-! ## Calls -/

variable {P : List Char → Prop} {part : List Char}

lemma SpellsPart.sublist_render (h : SpellsPart P part call) : call.render <+ part := by
  cases h with
  | bare hlead hname =>
    rw [Call.render_bare, String.toList_ofList]
    exact List.sublist_append_right _ _
  | @called lead name gap args hlead hname hgap hargs =>
    rw [Call.render_called, String.toList_ofList]
    refine List.Sublist.trans ?_ (List.sublist_append_right lead _)
    exact (List.sublist_append_right gap _).append_left name

lemma SpellsRest.sublist_renderRest (h : SpellsRest P text calls) : renderRest calls <+ text := by
  induction h with
  | nil => exact List.Sublist.refl _
  | blank hc _ ih => exact ih.cons _
  | part hpart _ ih =>
    rw [renderRest_cons]
    exact (hpart.sublist_render.append ih).cons_cons _

/-- The calls of a chain, written out again, are part of its text. -/
lemma sublist_render (h : parse text = some calls) : render calls <+ text := by
  cases spells_of_parse h (P := fun _ => True) fun _ _ _ _ => trivial with
  | chain hpart hrest =>
    rw [render_cons]
    exact hpart.sublist_render.append hrest.sublist_renderRest

lemma renderRest_append (calls more : List Call) :
    renderRest (calls ++ more) = renderRest calls ++ renderRest more :=
  List.flatMap_append

/-- What stands before a call is part of the chain. -/
lemma sublist_render_take (place : ℕ) (calls : List Call) :
    render (calls.take place) <+ render calls := by
  cases calls with
  | nil => simp
  | cons head others =>
    cases place with
    | zero => exact List.nil_sublist _
    | succ before =>
      have hsplit := renderRest_append (others.take before) (others.drop before)
      rw [List.take_append_drop] at hsplit
      rw [List.take_succ_cons, render_cons, render_cons, hsplit]
      exact (List.sublist_append_left _ _).append_left _

/-- A call is part of its chain. -/
lemma sublist_render_of_mem (h : call ∈ calls) : call.render <+ render calls := by
  cases calls with
  | nil => exact absurd h List.not_mem_nil
  | cons head others =>
    rw [render_cons]
    rcases List.mem_cons.1 h with rfl | h
    · exact List.sublist_append_left _ _
    · obtain ⟨before, behind, rfl⟩ := List.append_of_mem h
      rw [renderRest_append, renderRest_cons]
      refine List.Sublist.trans ?_ (List.sublist_append_right _ _)
      refine List.Sublist.trans ?_ (List.sublist_append_right _ _)
      exact (List.sublist_append_left _ _).cons _

end Chain

namespace Compile
open Chain

variable {ctx : Context} {calls : List Call} {call : Call}

lemma sublist_firstArgument (args : List Char) : firstArgument (some args) <+ args := by
  unfold firstArgument
  rw [Option.getD_some]
  cases hparts : (Scan.splitTopLevel args ',').head? with
  | none => exact List.nil_sublist _
  | some part => exact Scan.sublist_splitTopLevel (List.mem_of_mem_head? hparts)

/-- A part without arguments has no first argument. -/
lemma firstArgument_none : firstArgument none = [] := by
  unfold firstArgument
  rw [Option.getD_none, Scan.splitTopLevel_nil Scan.separates_comma]
  rfl

/-- The first argument of a call is part of the call. -/
lemma sublist_render_firstArgument (call : Call) : firstArgument call.args <+ call.render := by
  obtain ⟨name, args⟩ := call
  cases args with
  | none =>
    rw [firstArgument_none]
    exact List.nil_sublist _
  | some args =>
    rw [Call.render_called]
    refine List.Sublist.trans ?_ (List.sublist_append_right _ _)
    exact ((sublist_firstArgument args).trans (List.sublist_append_left _ _)).cons _

lemma sublist_untilQuote? {quote : Char} {text content rest : List Char}
    (h : untilQuote? quote text = some (content, rest)) : rest <+ text := by
  fun_induction untilQuote? quote text generalizing content with
  | case1 => exact absurd h (by simp)
  | case2 c more ih =>
    obtain ⟨⟨inner, after⟩, hinner, heq⟩ := Option.map_eq_some_iff.1 h
    obtain ⟨-, rfl⟩ := Prod.mk.inj heq
    exact ((ih hinner).cons _).cons _
  | case3 more hnot =>
    obtain ⟨-, rfl⟩ := Prod.mk.inj (Option.some.inj h)
    exact List.sublist_cons_self _ _
  | case4 => exact absurd h (by simp)
  | case5 c more hnot hquote hescape ih =>
    obtain ⟨⟨inner, after⟩, hinner, heq⟩ := Option.map_eq_some_iff.1 h
    obtain ⟨-, rfl⟩ := Prod.mk.inj heq
    exact (ih hinner).cons _

lemma sublist_fieldName? {text name rest : List Char}
    (h : fieldName? text = some (name, rest)) : rest <+ text := by
  unfold fieldName? at h
  split at h
  · exact (sublist_untilQuote? h).cons _
  · exact (sublist_untilQuote? h).cons _
  · obtain ⟨rfl, -⟩ := identifier?_eq_some h
    exact List.sublist_append_right _ _

/-- The expression of a field is part of its entry. -/
lemma sublist_field? {entry : List Char} {field : Field} (h : field? entry = some field) :
    field.expression <+ entry := by
  simp only [field?, Option.bind_eq_bind, Option.bind_eq_some_iff] at h
  obtain ⟨⟨name, rest⟩, hname, h⟩ := h
  have hrest := (sublist_fieldName? hname).trans (sublist_dropBlanks entry)
  dsimp only at h
  split at h
  · rename_i more hmore
    have hcolon := sublist_dropBlanks rest
    rw [hmore] at hcolon
    split at h
    · exact absurd h (by simp)
    · rw [← Option.some.inj h]
      have hmore' := (List.sublist_cons_self ':' more).trans (hcolon.trans hrest)
      exact (sublist_dropBlanks more).trans hmore'
  · exact absurd h (by simp)

/-- The inside of a shape is part of the shape. -/
lemma sublist_shapeBody? {shape body : List Char} (h : shapeBody? shape = some body) :
    body <+ shape := by
  unfold shapeBody? at h
  split at h
  · obtain ⟨n, -, rfl⟩ := Option.map_eq_some_iff.1 h
    exact (List.take_sublist _ _).trans (List.drop_sublist _ _)
  · exact absurd h (by simp)

lemma sublist_of_mem_fieldTexts {shape field : List Char} (h : field ∈ fieldTexts shape) :
    field <+ shape := by
  unfold fieldTexts at h
  split at h
  · rename_i body hbody
    obtain ⟨f, hf, rfl⟩ := List.mem_map.1 h
    obtain ⟨entry, hentry, hfield⟩ := List.mem_filterMap.1 hf
    exact (sublist_field? hfield).trans
      ((Scan.sublist_splitTopLevel hentry).trans (sublist_shapeBody? hbody))
  · exact absurd h List.not_mem_nil

/-- The texts that a chain without an array suffix is compiled from are part of its constructor's
argument. -/
lemma sublist_of_mem_chainParts {part : List Char} (h : part ∈ chainParts ctx calls) :
    part <+ firstArgument (calls.getD 1 default).args := by
  unfold chainParts at h
  simp only at h
  split at h
  · split at h
    · exact absurd h List.not_mem_nil
    · obtain rfl := List.mem_singleton.1 h
      exact List.Sublist.refl _
  · exact sublist_of_mem_fieldTexts h
  · exact absurd h List.not_mem_nil

/-- The first argument of a call is part of the chain. -/
lemma sublist_firstArgument_of_mem (h : call ∈ calls) :
    firstArgument call.args <+ render calls :=
  (sublist_render_firstArgument call).trans (sublist_render_of_mem h)

/-- The constructor's argument is part of the chain. -/
lemma sublist_constructor (calls : List Call) :
    firstArgument (calls.getD 1 default).args <+ render calls := by
  have hnone : firstArgument (default : Call).args <+ render calls := by
    rw [show (default : Call).args = none from rfl, firstArgument_none]
    exact List.nil_sublist _
  rcases calls with _ | ⟨head, _ | ⟨constructor, modifiers⟩⟩
  · exact hnone
  · exact hnone
  · exact sublist_firstArgument_of_mem (List.mem_cons_of_mem head List.mem_cons_self)

/-- The texts that a chain is compiled from are parts of it. -/
theorem sublist_of_mem_partsOf {part : List Char} (h : part ∈ partsOf ctx calls) :
    part <+ render calls := by
  unfold partsOf at h
  split at h
  · exact absurd h List.not_mem_nil
  · split at h
    · rw [List.mem_singleton.1 h]
      exact sublist_render_take _ calls
    · exact (sublist_of_mem_chainParts h).trans (sublist_constructor calls)

/-- The calls of an expression, written out again, are part of it. -/
lemma sublist_render_callsOf (text : List Char) : render (callsOf text) <+ text := by
  unfold callsOf
  cases hparse : parse (trim (withoutDefaults text)) with
  | none => exact List.nil_sublist _
  | some calls => exact (sublist_render hparse).trans (sublist_trim_withoutDefaults text)

end Compile
end SlideContract
