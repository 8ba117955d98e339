import SlideContract.Proofs.Compile.Braced

/-!
# Objects with one field

A field is a key, a colon and an expression, with blanks where they do not matter. The key is a bare
name or stands between quotes, and its characters are no code, so that the field is not cut and no
default begins in front of its expression.

* `shapeOf_keyed`: the shape of an object with one field;
* `compile_keyed`: an object with one field has the type of the field, on the next level.
-/

namespace SlideContract.Compile
open Scan Text Chain

variable {ctx : Context} {settings : Settings} {name key lead gap space text : List Char}
  {calls : List Call}

/-- A key, a colon and an expression, with blanks around the colon. -/
def keyed (key gap space text : List Char) : List Char := key ++ (gap ++ ':' :: (space ++ text))

/-! ## In front of the expression -/

lemma markless_enclosed {quote : Char} {body : List Char} (h : isQuote quote = true)
    (hinside : Inside quote body) : Markless (enclosed quote body) where
  balanced := (balanced_enclosed h hinside).1
  code before c behind heq hcode hquote := by
    have hout := (balanced_enclosed h hinside).2 0 _ (mem_trace.2 ⟨before, c, behind, heq, rfl⟩)
    simp [visit, hcode, hquote] at hout

lemma IsKey.markless (h : IsKey name key) : Markless key := by
  cases h with
  | bare hname => exact .of_forall (not_mem_marks_of_isIdentifier hname)
  | quoted quote hquote hinside => exact markless_enclosed (isQuote_of_key hquote) hinside

lemma not_mem_marks_colon (hgap : Blanks gap) (hspace : Blanks space) :
    ∀ c ∈ gap ++ ':' :: space, c ∉ marks := by
  intro c hc
  rcases List.mem_append.1 hc with hc | hc
  · exact hgap.not_mem_marks c hc
  rcases List.mem_cons.1 hc with rfl | hc
  · decide
  · exact hspace.not_mem_marks c hc

/-- What stands in front of the expression of a field. -/
lemma markless_front (hlead : Blanks lead) (hkey : IsKey name key) (hgap : Blanks gap)
    (hspace : Blanks space) : Markless (lead ++ (key ++ (gap ++ ':' :: space))) :=
  (Markless.of_forall hlead.not_mem_marks).append
    (hkey.markless.append (.of_forall (not_mem_marks_colon hgap hspace)))

lemma keyed_eq (key gap space text : List Char) :
    keyed key gap space text = ([] ++ (key ++ (gap ++ ':' :: space))) ++ text := by
  simp [keyed]

lemma nested_keyed (hkey : IsKey name key) (hgap : Blanks gap) (hspace : Blanks space)
    (h : Nested text) : Nested (keyed key gap space text) := by
  rw [keyed_eq]
  exact (markless_front blanks_nil hkey hgap hspace).nested_append h

lemma withoutDefaults_keyed (hkey : IsKey name key) (hgap : Blanks gap) (hspace : Blanks space)
    (h : Nested text) :
    withoutDefaults (keyed key gap space text) = keyed key gap space (withoutDefaults text) := by
  rw [keyed_eq, (markless_front blanks_nil hkey hgap hspace).withoutDefaults h, keyed_eq]

/-! ## Fields -/

/-- The only entry of an object with one field, without the blanks around its expression. -/
lemma splitTopLevel_keyed (hkey : IsKey name key) (hgap : Blanks gap) (hspace : Blanks space)
    (h : Spells Nested text calls) :
    ∃ space', Blanks space' ∧
      splitTopLevel (keyed key gap space text) ',' = [keyed key gap space' (trim text)] := by
  obtain ⟨hstarts, hstops, hne⟩ := h.trim_ends
  obtain ⟨lead, trail, hlead, htrail, heq⟩ := Chain.exists_trim text
  have hpart := hkey.isPart
  have hspaces : Blanks (space ++ lead) := hspace.append hlead
  refine ⟨space ++ lead, hspaces, ?_⟩
  -- the blanks around the expression belong to the space in front of it and to what is trimmed
  -- behind it
  have htext : keyed key gap space text
      = [] ++ (keyed key gap (space ++ lead) (trim text) ++ trail) := by
    conv_lhs => rw [heq]
    simp [keyed]
  have hstops' : Stops (keyed key gap (space ++ lead) (trim text)) := by
    rw [keyed_eq]
    exact hstops.append hne _
  have htrim : trim (keyed key gap space text) = keyed key gap (space ++ lead) (trim text) := by
    rw [htext]
    exact trim_blanks blanks_nil htrail (hpart.starts.append hpart.nonempty _) hstops'
      (by simp [keyed, hpart.nonempty])
  have huncut : Uncut ',' (keyed key gap space text) := by
    have hrest := (h.mono fun _ hargs => hargs.balanced).uncut.unmarked
      (not_mem_marks_colon hgap hspace) (by decide)
    refine hpart.uncut.append hpart.tame.balanced ?_
    simpa using hrest
  rw [splitTopLevel_trim separates_comma (nested_keyed hkey hgap hspace h.nested).balanced huncut
    (by rw [htrim]; simp [keyed]), htrim]

/-- The shape of an object with one field. -/
lemma shapeOf_keyed (hkey : IsKey name key) (hgap : Blanks gap) (hspace : Blanks space)
    (h : Spells Nested text calls) (inner : List Char → Run TypeTree) :
    shapeOf inner settings (keyed key gap space text) = (do
      let tree ← inner (trim text)
      return ⟨[(String.ofList name, tree)],
        if isOptional settings (trim text) then [] else [String.ofList name]⟩) := by
  obtain ⟨hstarts, -, hne⟩ := h.trim_ends
  obtain ⟨space', hspace', hsplit⟩ := splitTopLevel_keyed hkey hgap hspace h
  unfold shapeOf
  rw [hsplit, List.foldlM_cons]
  unfold addEntry keyed
  rw [field?_key hkey hgap hspace' hstarts hne]
  simp only [bind_assoc]
  rfl

/-- An object with one field has the type of the field, on the next level. -/
theorem compile_keyed (hbuilder : IsIdentifier ctx.settings.builderNamespace.toList)
    (htable : Entries.has ctx.settings.builderNamespace ctx.table = false)
    (hkey : IsKey name key) (hgap : Blanks gap) (hspace : Blanks space)
    (h : Spells Nested text calls) (levels : ℕ) (visiting : List String) :
    compile ctx (levels + 1) visiting
        (withBody ctx.settings.builderNamespace (keyed key gap space text)) = (do
      let tree ← compile ctx levels visiting (trim (withoutDefaults text))
      return .object [(String.ofList name, tree)]
        (if isOptional ctx.settings (trim (withoutDefaults text)) then []
          else [String.ofList name])) := by
  rw [compile_withBody hbuilder htable (nested_keyed hkey hgap hspace h.nested),
    withoutDefaults_keyed hkey hgap hspace h.nested,
    shapeOf_keyed hkey hgap hspace h.withoutDefaults, bind_assoc]
  rfl

end SlideContract.Compile
