import SlideContract.Proofs.Finding
import SlideContract.Proofs.Json.Digits

/-!
# Verdicts on any text

Under the document of a tree every text gets a verdict, whatever a model has written, unless it
holds an integer of too many digits. A text that is no JSON has this as its one finding. Any other
breaks keywords of the document or none, and is handed on as a value if it breaks none.

* `TypeTree.keyword_of_breach`: the keywords that a tree can find broken;
* `Verdict.outcome`: the verdict on a text, by what is read from it;
* `Verdict.exists_ofContent`: texts without a long run of digits get a verdict;
* `Verdict.ofContent_integer`: integers of too many digits get none.
-/

namespace SlideContract

namespace TypeTree
open Breach

/-- The keywords that trees find broken. -/
def keywords : List String :=
  ["type", "enum", "minLength", "maxLength", "minItems", "maxItems", "minimum", "maximum",
    "required", "additionalProperties"]

/-- The breaches are of keywords of trees. -/
def Named (breaches : List Breach) : Prop := ∀ b ∈ breaches, b.2 ∈ keywords

namespace Named

variable {l m : List Breach} {keyword low high : String}

lemma nil : Named [] := fun _ h => absurd h List.not_mem_nil

lemma append (hl : Named l) (hm : Named m) : Named (l ++ m) :=
  List.forall_mem_append.2 ⟨hl, hm⟩

lemma single (location : Location) (h : keyword ∈ keywords) : Named [(location, keyword)] :=
  List.forall_mem_singleton.2 h

lemma when (condition : Bool) (h : keyword ∈ keywords) : Named (when condition keyword) := by
  unfold Breach.when
  split
  · exact single [] h
  · exact nil

lemma below (step : Step) (h : Named l) : Named (below step l) := by
  intro b hb
  obtain ⟨inner, hinner, rfl⟩ := List.mem_map.1 hb
  exact h inner hinner

lemma ofBounds (hlow : low ∈ keywords) (hhigh : high ∈ keywords) (b : Bounds) (n : Number) :
    Named (ofBounds low high b n) :=
  append (when _ hlow) (when _ hhigh)

lemma ofItems {breaches : Json → List Breach} (h : ∀ item, Named (breaches item))
    (items : List Json) : Named (ofItems breaches items) := by
  intro b hb
  obtain ⟨⟨item, i⟩, -, hb⟩ := List.mem_flatMap.1 hb
  exact below (.index i) (h item) b hb

lemma ofString (b : Bounds) (v : Json) : Named (ofString b v) := by
  unfold Breach.ofString
  split
  · exact ofBounds (by decide) (by decide) b _
  · exact single [] (by decide)

lemma ofNames (known required : List String) (members : List (String × Json)) :
    Named (ofNames known required members) := by
  refine append (fun b hb => ?_) (when _ (by decide))
  obtain ⟨name, -, rfl⟩ := List.mem_map.1 hb
  exact (by decide : "required" ∈ keywords)

end Named

/-- What breaks properties breaks keywords of trees, if this is so of each property. -/
lemma named_propertyBreaches {properties : List (String × TypeTree)}
    (h : ∀ p ∈ properties, ∀ v, Named (breaches false p.2 v)) (members : List (String × Json)) :
    Named (propertyBreaches properties members) := by
  induction properties with
  | nil =>
    unfold propertyBreaches
    exact .nil
  | cons p rest ih =>
    obtain ⟨name, tree⟩ := p
    unfold propertyBreaches
    refine .append ?_ (ih fun q hq => h q (List.mem_cons_of_mem _ hq))
    split
    · exact .below _ (h (name, tree) List.mem_cons_self _)
    · exact .nil

/-- What breaks a tree breaks keywords of trees. -/
theorem keyword_of_breach {tree : TypeTree} (h : tree.Proper) (asItem : Bool) (v : Json) :
    Named (breaches asItem tree v) := by
  have htype : Named [([], "type")] := .single [] (by decide)
  -- a value of another kind breaks `type` and nothing else; one of its own kind breaks what its
  -- bounds or its children break
  induction h generalizing asItem v with
  | object _ _ _ _ ih =>
    unfold breaches
    cases v with
    | obj members =>
      exact .append (.ofNames _ _ members) (named_propertyBreaches (fun p hp => ih p hp false) _)
    | _ => exact htype
  | array b _ ih =>
    unfold breaches
    cases v with
    | arr items =>
      exact .append (.ofBounds (by decide) (by decide) b _) (.ofItems (ih true) items)
    | _ => exact htype
  | itemless b =>
    unfold breaches
    cases v with
    | arr items =>
      exact .append (.ofBounds (by decide) (by decide) b _) (.ofItems (.ofString {}) items)
    | _ => exact htype
  | string b =>
    unfold breaches
    exact .ofString b v
  | number b =>
    unfold breaches
    cases v with
    | num n => exact .ofBounds (by decide) (by decide) b n
    | _ => exact htype
  | boolean =>
    unfold breaches
    cases v with
    | bool _ => exact .nil
    | _ => exact htype
  | enum values =>
    unfold breaches
    cases v with
    | str s => exact .when _ (by decide)
    | _ => exact .append htype (.when _ (by decide))
  | unknown =>
    unfold breaches
    cases asItem with
    | true => exact .ofString {} v
    | false =>
      cases v with
      | obj members => exact .when _ (by decide)
      | _ => exact htype

lemma named_rootBreaches {tree : TypeTree} (h : tree.Proper) (v : Json) :
    Named (rootBreaches tree v) := by
  unfold rootBreaches
  split
  · exact keyword_of_breach Document.proper_fallback false v
  · exact keyword_of_breach h false v

end TypeTree

namespace Verdict
open Schema

variable {tree : TypeTree} {document : Json}

/-- The verdict has the one finding that the content is no JSON, and nothing to hand on. -/
structure IsMalformed (verdict : Verdict) : Prop where
  findings : ∃ finding, verdict.findings = [finding] ∧ finding.keyword = "json" ∧
    finding.path = Location.render []
  data : verdict.data = .null

/-- The verdict is about a value: its findings are of keywords of trees, and the value is handed on
if there are none. -/
structure IsAbout (value : Json) (verdict : Verdict) : Prop where
  findings : ∀ finding ∈ verdict.findings, finding.keyword ∈ TypeTree.keywords
  data : verdict.data = if verdict.isValid then value else .null

/-- What comes of a text, once it is read or is not. -/
def Outcome (read : Except Json.Fault Json) (result : Except ContentFault Verdict) : Prop :=
  match read with
  | .ok value => ∃ verdict, result = .ok verdict ∧ verdict.IsAbout value
  | .error (.malformed _ _) => ∃ verdict, result = .ok verdict ∧ verdict.IsMalformed
  | .error (.digits fault) => result = .error (.digits fault)

/-- A tree has a document, and under it the verdict on a text is what is to come of what is read
from the text: every text is judged but for those of which an integer is not read. -/
theorem outcome (h : tree.Proper) :
    ∃ document, Document.ofRoot tree = .ok document ∧
      ∀ text : String, Outcome (Json.read text.toList) (ofContent document (.str text)) := by
  obtain ⟨document, hdocument, hfinds⟩ := Document.finds_of_ofRoot h
  refine ⟨document, hdocument, fun text => ?_⟩
  unfold Outcome ofContent
  dsimp only
  cases Json.read text.toList with
  | ok value =>
    obtain ⟨found, hfound, hperm, -⟩ := exists_violations (hfinds value)
    refine ⟨_, ofValue_eq hfound, ?_, ?_⟩
    · intro finding hfinding
      obtain ⟨violation, hviolation, rfl⟩ := List.mem_map.1 hfinding
      have hbreach := hperm.mem_iff.1 (List.mem_map_of_mem hviolation)
      exact TypeTree.named_rootBreaches h value _ hbreach
    · cases found <;> rfl
  | error fault =>
    cases fault with
    | malformed problem position => exact ⟨_, rfl, ⟨_, rfl, rfl, rfl⟩, rfl⟩
    | digits fault => rfl

/-- Every text without a long run of digits is judged. -/
theorem exists_ofContent (h : tree.Proper) :
    ∃ document, Document.ofRoot tree = .ok document ∧ ∀ text : String,
      (∀ count, ¬ Json.HasLongRun text.toList count) →
        ∃ verdict, ofContent document (.str text) = .ok verdict := by
  obtain ⟨document, hdocument, houtcome⟩ := outcome h
  refine ⟨document, hdocument, fun text hrun => ?_⟩
  have hverdict := houtcome text
  unfold Outcome at hverdict
  split at hverdict
  · obtain ⟨verdict, hverdict, -⟩ := hverdict
    exact ⟨verdict, hverdict⟩
  · obtain ⟨verdict, hverdict, -⟩ := hverdict
    exact ⟨verdict, hverdict⟩
  · rename_i fault hread
    exact absurd (Json.hasLongRun_of_read hread) (hrun fault.count)

/-- A text that is an integer of too many digits, and nothing else, is not judged, whatever the
document. -/
theorem ofContent_integer {digits : List Char} (hdigits : ∀ c ∈ digits, c.isDigit = true)
    (hhead : digits.head? ≠ some '0') (hlong : digitLimit < digits.length) (document : Json) :
    ofContent document (.str (String.ofList digits)) = .error (.digits ⟨digits.length⟩) := by
  unfold ofContent
  dsimp only
  rw [String.toList_ofList, Json.read_integer hdigits hhead hlong]

/-- So many ones are not judged. -/
theorem ofContent_ones (document : Json) :
    ofContent document (.str (String.ofList (List.replicate 4301 '1')))
      = .error (.digits ⟨4301⟩) := by
  have hlength : (List.replicate 4301 '1').length = 4301 := List.length_replicate
  have hdigits : ∀ c ∈ List.replicate 4301 '1', c.isDigit = true := by
    intro c hc
    rw [(List.mem_replicate.1 hc).2]
    rfl
  have hhead : (List.replicate 4301 '1').head? ≠ some '0' :=
    fun heq => absurd (Option.some.inj heq) (by decide)
  have hlong : digitLimit < (List.replicate 4301 '1').length := by
    rw [hlength]
    decide
  rw [ofContent_integer hdigits hhead hlong, hlength]

end Verdict
end SlideContract
