import SlideContract.Proofs.Edit.Content
import SlideContract.Proofs.Finding
import SlideContract.Proofs.Layout.Usable

/-!
# Content of layouts

What the response schema of a layout asks for is the content of the layout without the addresses of
its media and with a speaker note. This is so for layouts that are objects; the response schema of
any other layout has the note among its keywords as well, but accepts only what is no object, and so
holds no note.

* `Verdict.accepted_iff`: what the verdict on a value says of the schema;
* `response_content`: content of a document, and content of its response schema;
* `note_of_response`: which content of a response schema has a note.
-/

namespace SlideContract
open Schema Document

namespace Verdict

/-- The verdict on the value under the document is that it is valid. -/
def Accepted (document value : Json) : Prop :=
  ∃ verdict, ofValue document value = .ok verdict ∧ verdict.isValid = true

/-- What is valid is accepted and handed on. -/
lemma accepts_of_isValid {document value : Json} {verdict : Verdict}
    (h : ofValue document value = .ok verdict) (hvalid : verdict.isValid = true) :
    Accepts document value ∧ verdict.data = value := by
  obtain ⟨found, hfound, hfindings⟩ := exists_violations_of_ofValue h
  unfold isValid at hvalid
  rw [hfindings, List.isEmpty_iff, List.map_eq_nil_iff] at hvalid
  subst hvalid
  rw [ofValue_eq hfound] at h
  obtain ⟨hfault, hnil⟩ := violations_eq_ok_iff.1 hfound
  have hperm := List.mergeSort_perm (check document value).violations
    fun a b => Location.le a.location b.location
  rw [hnil] at hperm
  refine ⟨⟨hfault, ?_⟩, ?_⟩
  · rw [List.nil_perm.1 hperm]
    exact .nil
  · rw [← Except.ok.inj h]
    rfl

/-- A value is valid exactly if the schema accepts it. -/
theorem accepted_iff {document value : Json} :
    Accepted document value ↔ Accepts document value := by
  constructor
  · rintro ⟨verdict, hverdict, hvalid⟩
    exact (accepts_of_isValid hverdict hvalid).1
  · intro h
    obtain ⟨found, hfound, hperm, -⟩ := exists_violations h
    refine ⟨_, ofValue_eq hfound, ?_⟩
    rw [List.map_eq_nil_iff.1 (List.perm_nil.1 hperm)]
    rfl

/-- A verdict that comes out valid. -/
lemma accepted_of_any {document value : Json}
    (h : (ofValue document value).toOption.any isValid = true) : Accepted document value := by
  cases hverdict : ofValue document value with
  | error fault =>
    rw [hverdict] at h
    exact absurd h Bool.false_ne_true
  | ok verdict =>
    rw [hverdict] at h
    exact ⟨verdict, hverdict, h⟩

/-- Content that is valid is an accepted value, or the JSON text of one. -/
lemma accepts_of_content {document content : Json} {verdict : Verdict}
    (h : ofContent document content = .ok verdict) (hvalid : verdict.isValid = true) :
    Accepts document verdict.data := by
  have hvalue : ∀ value, ofValue document value = .ok verdict → Accepts document verdict.data := by
    intro value hverdict
    obtain ⟨haccepts, hdata⟩ := accepts_of_isValid hverdict hvalid
    rw [hdata]
    exact haccepts
  unfold ofContent at h
  split at h
  · split at h
    · exact hvalue _ h
    · -- a text that is no JSON is not valid
      rw [← Except.ok.inj h] at hvalid
      exact absurd hvalid Bool.false_ne_true
    · exact absurd h (by rintro ⟨⟩)
  · exact hvalue _ h

end Verdict

namespace Document

/-- A document of a layout, or of an expression that compiles to a tree. -/
inductive IsCompiled : Json → Prop where
  | layout (settings : Settings) (source : List Char) :
    IsCompiled (Layout.compile settings source).document
  | expression {ctx : Compile.Context} {visiting : List String} {depth : Int} {text : List Char}
    {tree : TypeTree} {document : Json}
    (htree : (Compile.expression ctx visiting depth text).result = .ok tree)
    (hdocument : ofRoot tree = .ok document) : IsCompiled document

lemma IsCompiled.usable {document : Json} (h : IsCompiled document) : Usable document := by
  cases h with
  | layout settings source => exact Layout.usable_compile settings source
  | expression htree hdocument =>
    obtain ⟨other, hother, husable⟩ := usable_of_ofRoot (TypeTree.sound_of_compile htree)
    rw [Except.ok.inj (hdocument.symm.trans hother)]
    exact husable

lemma get?_type_of_isObjectSchema {document : Json}
    (h : document.members?.any Edit.isObjectSchema = true) :
    document.get? "type" = some (.str "object") := by
  cases document with
  | obj members =>
    have hobject : Edit.isObjectSchema members = true := h
    unfold Edit.isObjectSchema at hobject
    split at hobject
    · rename_i type htype
      rw [eq_of_beq hobject] at htype
      exact htype
    · exact absurd hobject Bool.false_ne_true
  | _ => exact absurd h Bool.false_ne_true

/-- A usable document of an object has properties. -/
lemma Usable.exists_objectSchema {document : Json} (h : Usable document)
    (hroot : document.get? "type" = some (.str "object")) :
    ∃ properties required, document = objectSchema properties required ∧
      (Entries.names properties).Nodup ∧ ∀ p ∈ properties, Usable p.2 := by
  cases h with
  | leaf htype _ =>
    rw [Json.str.inj (Option.some.inj hroot)] at htype
    exact absurd htype (by decide)
  | array _ _ =>
    have htype : "array" = "object" := Json.str.inj (Option.some.inj hroot)
    exact absurd htype (by decide)
  | object required nodup h => exact ⟨_, required, rfl, nodup, h⟩

/-- A usable document of anything else has some other type. -/
lemma Usable.exists_typed {document : Json} (h : Usable document)
    (hroot : document.get? "type" ≠ some (.str "object")) :
    ∃ type members, document = typed type members ∧
      type ∈ ["array", "string", "number", "boolean"] := by
  cases h with
  | leaf htype _ => exact ⟨_, _, rfl, List.mem_cons_of_mem _ htype⟩
  | array _ _ => exact ⟨_, _, rfl, List.mem_cons_self⟩
  | object required _ _ => exact absurd rfl hroot

end Document

namespace Layout
open Edit

/-- The response schema of a compiled document with an object at its root, and without a note of its
own, asks for exactly the content of the document without media and with a note. Content of the
document becomes content of the response schema when the media are left out and a note is added; and
content of the response schema has a note, no media in any object, and is without its note content
of what is left of the document. -/
theorem response_content {document : Json} (h : IsCompiled document)
    (hroot : document.get? "type" = some (.str "object"))
    (hnote : (document.get? "properties").bind (Json.get? noteField) = none) :
    ∃ pruned answer, prune mediaFields document = .ok pruned ∧ response document = .ok answer ∧
      (∀ w note, Verdict.Accepted document w → 100 ≤ note.length → note.length ≤ 250 →
        ∃ members, w.without mediaFields = .obj members ∧
          Verdict.Accepted answer (.obj (Entries.set noteField (.str note) members))) ∧
      ∀ v, Verdict.Accepted answer v →
        ∃ members note, v = .obj members ∧ Entries.get? noteField members = some (.str note) ∧
          100 ≤ note.length ∧ note.length ≤ 250 ∧ v.Lacks mediaFields ∧
          Verdict.Accepted pruned (.obj (Entries.erase noteField members)) := by
  obtain ⟨properties, required, rfl, nodup, husable⟩ := h.usable.exists_objectSchema hroot
  obtain ⟨kept, answer, hsurvive, hpruned, hanswer, hclosed⟩ :=
    exists_response_object required nodup husable
  have hkept : noteField ∉ Entries.names kept := by
    rw [hsurvive.names]
    exact fun hmem => Entries.get?_eq_none_iff.1 hnote (List.mem_of_mem_filter hmem)
  have hnames : noteField ∉ (Entries.names kept).filter (required.contains ·) :=
    fun hmem => hkept (List.mem_of_mem_filter hmem)
  refine ⟨_, _, hpruned, hanswer, fun w note hw hmin hmax => ?_, fun v hv => ?_⟩
  · rw [Verdict.accepted_iff] at hw
    obtain ⟨members, rfl, hfits⟩ := (accepts_closed_iff (closed_objectSchema rfl)).1 hw
    refine ⟨Json.withoutMembers mediaFields members, by unfold Json.without; rfl, ?_⟩
    rw [Verdict.accepted_iff, accepts_closed_iff hclosed]
    -- the fields go first, and the note, which is none of them, comes after
    exact ⟨_, rfl, fits_set hkept (fits_without hsurvive hfits) hmin hmax⟩
  · rw [Verdict.accepted_iff, accepts_closed_iff hclosed] at hv
    obtain ⟨members, rfl, hfits⟩ := hv
    obtain ⟨note, hget, hmin, hmax⟩ := note_of_fits hfits
    have herase := fits_erase hkept hnames hfits
    refine ⟨members, note, rfl, hget, hmin, hmax, ?_, ?_⟩
    · exact lacks_of_erase hget (by decide) (lacks_of_fits hsurvive herase)
    · rw [Verdict.accepted_iff]
      exact (accepts_closed_iff (closed_objectSchema rfl)).2 ⟨_, rfl, herase⟩

/-- A layout of a picture whose address is filled in later. -/
def pictured : List Char :=
  "const Schema = z.object(\x7bimage: z.object(\x7b__image_url__: z.string()\x7d)\x7d)".toList

/-- Content with the address is valid for the layout; without it and with a note it is valid for the
response schema, which has no use for addresses. -/
theorem response_content_pictured :
    ∃ pruned answer, prune mediaFields (compile {} pictured).document = .ok pruned ∧
      response (compile {} pictured).document = .ok answer ∧
      (∀ note : String, 100 ≤ note.length → note.length ≤ 250 →
        Verdict.Accepted answer (.obj [("image", .obj []), (noteField, .str note)])) ∧
      ∀ v, Verdict.Accepted answer v → v.Lacks mediaFields := by
  have hchecked : (compile {} pictured).document.members?.any isObjectSchema = true ∧
      (((compile {} pictured).document.get? "properties").bind
        (Json.get? noteField)).isNone = true ∧
      (Verdict.ofValue (compile {} pictured).document
        (.obj [("image", .obj [("__image_url__", .str "a.png")])])).toOption.any Verdict.isValid
          = true := by
    decide +kernel
  obtain ⟨hobject, hnone, hvalid⟩ := hchecked
  obtain ⟨pruned, answer, hpruned, hanswer, hasked, hgiven⟩ :=
    response_content (.layout {} pictured) (get?_type_of_isObjectSchema hobject)
      (Option.isNone_iff_eq_none.1 hnone)
  refine ⟨pruned, answer, hpruned, hanswer, fun note hmin hmax => ?_, fun v hv => ?_⟩
  · obtain ⟨members, hmembers, haccepted⟩ :=
      hasked _ note (Verdict.accepted_of_any hvalid) hmin hmax
    have hleft : Json.without mediaFields (.obj [("image", .obj [("__image_url__", .str "a.png")])])
        = .obj [("image", .obj [])] := rfl
    rw [← Json.obj.inj (hleft.symm.trans hmembers)] at haccepted
    exact haccepted
  · obtain ⟨_, _, -, -, -, -, hlacks, -⟩ := hgiven v hv
    exact hlacks

/-- The valid content of the response schema of a layout is an object with a note if the document of
the layout is that of an object, and no object at all if it is not. -/
theorem note_of_response (settings : Settings) (source : List Char) :
    ∃ answer, response (compile settings source).document = .ok answer ∧
      ∀ content verdict, Verdict.ofContent answer content = .ok verdict → verdict.isValid = true →
        ((compile settings source).document.get? "type" = some (.str "object") →
          ∃ members note, verdict.data = .obj members ∧
            Entries.get? noteField members = some (.str note) ∧ 100 ≤ note.length ∧
            note.length ≤ 250) ∧
        ((compile settings source).document.get? "type" ≠ some (.str "object") →
          ∀ members, verdict.data ≠ .obj members) := by
  have husable := usable_compile settings source
  generalize (compile settings source).document = document at husable ⊢
  -- the note is added to the properties of an object, and other documents are answered by
  -- themselves
  by_cases hroot : document.get? "type" = some (.str "object")
  · obtain ⟨properties, required, rfl, nodup, hproperties⟩ := husable.exists_objectSchema hroot
    obtain ⟨kept, answer, -, -, hanswer, hclosed⟩ :=
      exists_response_object required nodup hproperties
    refine ⟨_, hanswer, fun content verdict hverdict hvalid => ⟨fun _ => ?_, fun hother => ?_⟩⟩
    · have haccepts := Verdict.accepts_of_content hverdict hvalid
      obtain ⟨members, hdata, hfits⟩ := (accepts_closed_iff hclosed).1 haccepts
      obtain ⟨note, hnote⟩ := note_of_fits hfits
      exact ⟨members, note, hdata, hnote⟩
    · exact absurd hroot hother
  · obtain ⟨type, members, rfl, htype⟩ := husable.exists_typed hroot
    obtain ⟨answer, hanswer, hmem⟩ := exists_response_typed husable
    refine ⟨_, hanswer, fun content verdict hverdict hvalid => ⟨fun heq => ?_, fun _ => ?_⟩⟩
    · exact absurd heq hroot
    · -- the type at the root is kept, and an object has another
      intro inner hdata
      have haccepts := Verdict.accepts_of_content hverdict hvalid
      have hhas := hasType_of_accepts (List.mem_cons_of_mem _ htype) hmem haccepts
      rw [hdata] at hhas
      simp only [List.mem_cons, List.not_mem_nil, or_false] at htype
      rcases htype with rfl | rfl | rfl | rfl <;> exact absurd hhas (by simp [hasType])

/-- The response schema of a list of texts accepts the empty list, which has no note. -/
example :
    (response (compile {} "const XSchema = z.array(z.string());".toList).document).toOption.map
      (fun answer => (Verdict.ofContent answer (.arr [])).toOption.any Verdict.isValid)
        = some true := by
  decide +kernel

end Layout
end SlideContract
