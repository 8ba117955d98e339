import SlideContract.Proofs.Schema.Examined

/-!
# The strict check of valid and invalid schemas

In a valid Draft 7 schema all schemas that the strict check examines are valid, and the check goes
through. In a document that is not valid it still looks at the required names of every object schema
it meets, and ends with a fault if these cannot be gone through.

* `inspect_of_looks`: a valid schema leads to valid schemas;
* `exists_problems_of_valid`: valid schemas are judged;
* `exists_problems_iff`: which documents are judged;
* `mem_problems_of_invalid`: what is wrong with an invalid schema is among its problems.
-/

namespace SlideContract.Schema

namespace Inspection

variable {a b : Inspection} {problem : String} {inspections : List Inspection}

lemma andThen_eq_clear : a.andThen b = .clear ↔ a = .clear ∧ b = .clear := by
  obtain ⟨problem, fault⟩ := a
  obtain ⟨problem', fault'⟩ := b
  cases problem <;> cases fault <;> simp [andThen, clear]

lemma forall_of_all_eq_clear (h : all inspections = .clear) : ∀ i ∈ inspections, i = .clear := by
  induction inspections with
  | nil => exact fun _ h => absurd h List.not_mem_nil
  | cons i rest ih =>
    obtain ⟨hfirst, hrest⟩ := andThen_eq_clear.1 h
    exact List.forall_mem_cons.2 ⟨hfirst, ih hrest⟩

lemma eq_clear_of_either (h : either problem [a] = .clear) : a = .clear := by
  obtain ⟨first, fault⟩ := a
  cases fault with
  | some fault => exact absurd h (by simp [either, clear])
  | none =>
    cases first with
    | none => rfl
    | some first => exact absurd h (by simp [either, ofProblem, clear])

/-- There is neither a problem nor a fault exactly if nothing is wrong. -/
lemma first_eq_ok_none_iff : a.first = .ok none ↔ a = .clear := by
  obtain ⟨problem, fault⟩ := a
  cases problem <;> cases fault <;> simp [first, clear]

end Inspection

namespace Draft
open Document Strict

variable {members properties node : List (String × Json)} {name : String}
  {v document child required : Json} {next : Inspection}

lemma eq_clear_of_typed (h : typed name v next = .clear) :
    Keyword.hasTypeNamed v name = .ok true ∧ next = .clear := by
  unfold typed at h
  split at h
  · rename_i htype
    exact ⟨htype, h⟩
  · exact absurd h (by simp [Inspection.ofProblem, Inspection.clear])

lemma get?_inspectKeywords (name : String) (members : List (String × Json)) :
    Entries.get? name (inspectKeywords members)
      = (Entries.get? name members).map (inspection name) := by
  rw [inspectKeywords_eq]
  induction members with
  | nil => rfl
  | cons m rest ih =>
    rw [List.map_cons, Entries.get?, Entries.get?]
    split
    · rename_i heq
      rw [Option.map_some, heq]
    · exact ih

/-- Each keyword of a valid schema is in order. -/
lemma inspection_of_inspect (h : inspect (.obj members) = .clear)
    (hname : name ∈ Entries.names rules) (hget : Entries.get? name members = some v) :
    inspection name v = .clear := by
  obtain ⟨⟨_, rule⟩, hrule, rfl⟩ := List.mem_map.1 hname
  rw [inspect] at h
  refine Inspection.forall_of_all_eq_clear h _ (List.mem_filterMap.2 ⟨_, hrule, ?_⟩)
  show Entries.get? _ (inspectKeywords members) = _
  rw [get?_inspectKeywords, hget, Option.map_some]

lemma inspect_of_named (h : inspection "properties" (.obj properties) = .clear)
    (hmem : (name, child) ∈ properties) : inspect child = .clear := by
  have hnamed : inspectNamed (.obj properties) (inspectMembers properties) = .clear := h
  have hall := (eq_clear_of_typed hnamed).2
  rw [inspectMembers_eq, List.map_map] at hall
  exact Inspection.forall_of_all_eq_clear hall _ (List.mem_map.2 ⟨_, hmem, rfl⟩)

/-- A valid schema leads to valid schemas. -/
lemma inspect_of_looks (h : inspect document = .clear) (hlooks : Looks document child) :
    inspect child = .clear := by
  cases hlooks with
  | property htype hproperties hmem =>
    have hget := properties?_eq_some_iff.1 hproperties
    exact inspect_of_named (inspection_of_inspect h (by decide) hget) hmem
  | items htype hitems hconcrete =>
    cases child with
    | obj inner =>
      have hinner : Inspection.either (Keyword.noneValid (.obj inner)) [inspect (.obj inner)]
          = .clear := inspection_of_inspect h (by decide) hitems
      exact Inspection.eq_clear_of_either hinner
    | _ => exact absurd hconcrete Bool.false_ne_true

lemma inspect_of_examined (h : inspect document = .clear) (hexamined : Examined document node) :
    inspect (.obj node) = .clear := by
  unfold Examined at hexamined
  induction hexamined using Relation.ReflTransGen.head_induction_on with
  | refl => exact h
  | head hlooks _ ih => exact ih (inspect_of_looks h hlooks)

/-- What a valid schema requires is a list of strings. -/
lemma listsNames_of_inspection (h : inspection "required" required = .clear) :
    ListsNames required := by
  have htexts : inspectTexts required = .clear := by
    cases required <;> exact h
  unfold inspectTexts at htexts
  obtain ⟨htype, htexts⟩ := eq_clear_of_typed htexts
  cases required with
  | arr items =>
    have hall := Inspection.forall_of_all_eq_clear (Inspection.andThen_eq_clear.1 htexts).1
    intro item hitem
    have hstring := (eq_clear_of_typed (hall _ (List.mem_map_of_mem hitem))).1
    cases item with
    | arr inner => exact absurd hstring (by simp [Keyword.hasTypeNamed])
    | obj inner => exact absurd hstring (by simp [Keyword.hasTypeNamed])
    | _ => exact trivial
  | _ => exact absurd htype (by simp [Keyword.hasTypeNamed])

lemma hasNames_of_inspect (h : inspect (.obj node) = .clear) : HasNames node := by
  intro _ required hget
  exact listsNames_of_inspection (inspection_of_inspect h (by decide) hget)

end Draft

namespace Strict

variable {document : Json} {problem : Option String} {found : List String}

/-- The problems of a document are what is wrong with it as a schema, and those that the check
finds. -/
lemma problems_eq_ok_iff :
    problems document = .ok found ↔ ∃ problem below,
      (Draft.inspect document).first = .ok problem ∧ problemsAt "root" document = .ok below ∧
      found = problem.toList.map ("Invalid JSON Schema: " ++ ·) ++ below := by
  unfold problems
  constructor
  · intro h
    obtain ⟨problem, hproblem, h⟩ := Except.bind_eq_ok.1 h
    obtain ⟨below, hbelow, h⟩ := Except.bind_eq_ok.1 h
    exact ⟨problem, below, hproblem, hbelow, (Except.ok.inj h).symm⟩
  · rintro ⟨problem, below, hproblem, hbelow, rfl⟩
    rw [hproblem]
    show (problemsAt "root" document >>= _) = _
    rw [hbelow]
    rfl

/-- A document that can be inspected is judged exactly if the required names of every object schema
that is examined in it can be gone through. -/
theorem exists_problems_iff (h : (Draft.inspect document).first = .ok problem) :
    (∃ found, problems document = .ok found) ↔ ∀ node, Examined document node → HasNames node := by
  rw [← exists_problemsAt_iff "root"]
  constructor
  · rintro ⟨found, hfound⟩
    obtain ⟨_, below, -, hbelow, -⟩ := problems_eq_ok_iff.1 hfound
    exact ⟨below, hbelow⟩
  · rintro ⟨below, hbelow⟩
    exact ⟨_, problems_eq_ok_iff.2 ⟨problem, below, h, hbelow, rfl⟩⟩

/-- Every valid Draft 7 schema is judged. -/
theorem exists_problems_of_valid (h : (Draft.inspect document).first = .ok none) :
    ∃ found, problems document = .ok found := by
  have hclear := Inspection.first_eq_ok_none_iff.1 h
  exact (exists_problems_iff h).2 fun node hexamined =>
    Draft.hasNames_of_inspect (Draft.inspect_of_examined hclear hexamined)

/-- An invalid schema that is judged has a problem. -/
theorem mem_problems_of_invalid {problem : String}
    (h : (Draft.inspect document).first = .ok (some problem))
    (hfound : problems document = .ok found) : "Invalid JSON Schema: " ++ problem ∈ found := by
  obtain ⟨_, below, hfirst, -, rfl⟩ := problems_eq_ok_iff.1 hfound
  rw [← Except.ok.inj (h.symm.trans hfirst)]
  exact List.mem_cons_self

/-- The problems that the check finds are among those of the document. -/
lemma problemsAt_of_problems_eq_nil (h : problems document = .ok []) :
    problemsAt "root" document = .ok [] := by
  obtain ⟨_, below, -, hbelow, hnil⟩ := problems_eq_ok_iff.1 h
  rw [(List.append_eq_nil_iff.1 hnil.symm).2] at hbelow
  exact hbelow

/-- A closed object schema that requires null in the place of names is no valid schema, but it is
not judged. -/
theorem problems_required_null :
    let document := Json.obj [("type", .str "object"), ("properties", .obj []),
      ("additionalProperties", .bool false), ("required", .null)]
    (∃ problem, (Draft.inspect document).first = .ok (some problem)) ∧
      problems document = .error .wrongOperand :=
  ⟨⟨_, rfl⟩, rfl⟩

end Strict
end SlideContract.Schema
