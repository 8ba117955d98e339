import SlideContract.Proofs.Compile.Guard

/-!
# What one level of compilation goes down to

A chain is compiled from its parts: what stands before an array suffix, the item expression of an
array, the fields of an object. They are compiled with the same declarations under way; only a
reference puts one more under way. A level has no events that matter elsewhere and no end of its
own, but for the bounds it reads: it is as what it goes down to, and it does not end well unless
all of that does.

* `Run.Stepwise`: properties of runs that two steps have together if each of them has;
* `callsType_stepwise`: a level has such a property if what it goes down to has it;
* `callsType_avoids`: so nothing strikes on a level if nothing strikes below it;
* `clean_parts`, `clean_reference`: a level that ends well has gone through all of its parts, or
  through its reference.
-/

namespace SlideContract

namespace Event

/-- The event is left by a level of compilation where no guard strikes. -/
def isRemark : Event → Bool
  | .unrecognized _ | .inlined _ | .itemless | .unsupportedShape _ | .skipped _ | .openEnum _
  | .unsupportedLiteral _ => true
  | _ => false

end Event

namespace Run

/-- A property that values have, and that two steps have together if each of them has. -/
structure Stepwise (R : ∀ α : Type, Run α → Prop) : Prop where
  pure {α : Type} (a : α) : R α (pure a)
  bind {α β : Type} {run : Run α} {next : α → Run β} (h : R α run)
    (hnext : ∀ a, run.result = .ok a → R β (next a)) : R β (run >>= next)

lemma stepwise_avoids (strikes : Event → Bool) : Stepwise fun _ run => run.Avoids strikes where
  pure := avoids_pure
  bind h hnext := avoids_bind_iff.2 ⟨h, hnext⟩

/-- A run through a list has what each of its steps has. -/
lemma Stepwise.foldlM {R : ∀ α : Type, Run α → Prop} (hR : Stepwise R) {α β : Type}
    {step : β → α → Run β} {list : List α} (hstep : ∀ b, ∀ a ∈ list, R β (step b a)) (b : β) :
    R β (list.foldlM step b) := by
  induction list generalizing b with
  | nil => exact hR.pure b
  | cons a rest ih =>
    rw [List.foldlM_cons]
    refine hR.bind (hstep b a List.mem_cons_self) fun b' _ => ?_
    exact ih (fun b a ha => hstep b a (List.mem_cons_of_mem _ ha)) b'

variable {α β : Type} {strikes : Event → Bool}

/-- The run ends with a value, and leaves no event that `strikes`. -/
structure Clean (strikes : Event → Bool) (run : Run α) : Prop where
  ends : ∃ a, run.result = .ok a
  avoids : run.Avoids strikes

/-- The first of two steps is clean if both are together. -/
lemma Clean.first {run : Run α} {next : α → Run β} (h : (run >>= next).Clean strikes) :
    run.Clean strikes := by
  obtain ⟨b, hb⟩ := h.ends
  obtain ⟨a, ha, -⟩ := result_bind_eq_ok.1 hb
  exact ⟨⟨a, ha⟩, (avoids_bind_iff.1 h.avoids).1⟩

/-- The second of two steps is clean if both are together. -/
lemma Clean.second {run : Run α} {next : α → Run β} (h : (run >>= next).Clean strikes) {a : α}
    (ha : run.result = .ok a) : (next a).Clean strikes := by
  obtain ⟨b, hb⟩ := h.ends
  obtain ⟨a', ha', hb⟩ := result_bind_eq_ok.1 hb
  have heq : a' = a := Except.ok.inj (ha'.symm.trans ha)
  subst heq
  exact ⟨⟨b, hb⟩, (avoids_bind_iff.1 h.avoids).2 a' ha⟩

/-- Every element of a list has its turn in a clean run through the list. -/
lemma Clean.turn {step : β → α → Run β} {list : List α} {b : β}
    (h : (list.foldlM step b).Clean strikes) {a : α} (ha : a ∈ list) :
    ∃ b', (step b' a).Clean strikes := by
  induction list generalizing b with
  | nil => exact absurd ha List.not_mem_nil
  | cons first rest ih =>
    rw [List.foldlM_cons] at h
    rcases List.mem_cons.1 ha with rfl | hrest
    · exact ⟨b, h.first⟩
    · obtain ⟨b', hb'⟩ := h.first.ends
      exact ih (h.second hb') hrest

end Run

namespace Compile

/-! ## Parts of a chain -/

/-- The calls of the chain that an expression writes, none if it is no chain. -/
def callsOf (text : List Char) : List Call :=
  (Chain.parse (Text.trim (Chain.withoutDefaults text))).getD []

/-- The expressions of the fields that a shape writes. -/
def fieldTexts (shape : List Char) : List (List Char) :=
  match shapeBody? shape with
  | some body => ((Scan.splitTopLevel body ',').filterMap field?).map Field.expression
  | none => []

/-- The texts that a chain without an array suffix is compiled from. -/
def chainParts (ctx : Context) (calls : List Call) : List (List Char) :=
  let argument := firstArgument (calls.getD 1 default).args
  match Kind.ofChain ctx.table ctx.settings calls with
  | .array => if argument.isEmpty then [] else [argument]
  | .object => fieldTexts argument
  | _ => []

/-- The texts that a chain is compiled from, apart from what a reference stands for. -/
def partsOf (ctx : Context) (calls : List Call) : List (List Char) :=
  if Kind.ofChain ctx.table ctx.settings calls = .unknown then []
  else
    match arraySuffix? ctx.settings calls with
    | some place => [Chain.render (calls.take place)]
    | none => chainParts ctx calls

/-- The declaration that a chain refers to, if it is a reference without an array suffix. -/
def referenceOf? (ctx : Context) (calls : List Call) : Option String :=
  match arraySuffix? ctx.settings calls, Kind.ofChain ctx.table ctx.settings calls with
  | none, .reference => some (calls.headD default).name
  | _, _ => none

variable {strikes : Event → Bool} {ctx : Context} {visiting : List String} {calls : List Call}
  {inner : List String → List Char → Run TypeTree}

/-! ## What a level has of the steps below it -/

/-- The bounds that any of the calls behind some of a chain set are read with the property. -/
structure BoundsHave (R : ∀ α : Type, Run α → Prop) (calls : List Call) : Prop where
  length (n : ℕ) : R Bounds (Run.ofDigits (lengthBounds (calls.drop n)))
  range (n : ℕ) : R Bounds (Run.ofDigits (rangeBounds (calls.drop n)))
  size (n : ℕ) : R Bounds (Run.ofDigits (sizeBounds (calls.drop n)))

section Stepwise

variable {R : ∀ α : Type, Run α → Prop} (hR : Run.Stepwise R)
  (hremark : ∀ event, event.isRemark = true → R Unit (Run.emit event))

include hR

/-- Bounds of a type are read in one step. -/
lemma bounded_stepwise {result : Except TooManyDigits Bounds} (h : R Bounds (Run.ofDigits result))
    (wrap : Bounds → TypeTree) :
    R TypeTree (do return wrap (← Run.ofDigits result)) :=
  hR.bind h fun _ _ => hR.pure _

include hremark

/-- A remark and a value are no more than a remark. -/
lemma remark_stepwise {α : Type} {event : Event} (hevent : event.isRemark = true) (a : α) :
    R α (do Run.emit event; return a) :=
  hR.bind (hremark event hevent) fun _ _ => hR.pure a

lemma enumType_stepwise (constructor : Call) (text : List Char) :
    R TypeTree (enumType constructor text) := by
  unfold enumType
  simp only
  split
  · split
    · exact hR.pure _
    · exact remark_stepwise hR hremark rfl _
  · split
    · exact hR.pure _
    · exact remark_stepwise hR hremark rfl _

lemma arrayType_stepwise {compileItem : List Char → Run TypeTree} {constructor : Call}
    {modifiers : List Call}
    (h : firstArgument constructor.args ≠ [] →
      R TypeTree (compileItem (firstArgument constructor.args)))
    (hsize : R Bounds (Run.ofDigits (sizeBounds modifiers))) :
    R TypeTree (arrayType compileItem constructor modifiers) := by
  unfold arrayType
  simp only
  split
  · refine hR.bind (hremark _ rfl) fun _ _ => ?_
    exact bounded_stepwise hR hsize _
  · rename_i hfull
    have hne : firstArgument constructor.args ≠ [] := by simpa using hfull
    exact hR.bind (h hne) fun _ _ => bounded_stepwise hR hsize _

lemma objectType_stepwise {compileField : List Char → Run TypeTree} {constructor : Call}
    (h : ∀ field ∈ fieldTexts (firstArgument constructor.args), R TypeTree (compileField field))
    (settings : Settings) (modifiers : List Call) :
    R TypeTree (objectType compileField settings constructor modifiers) := by
  unfold objectType
  simp only
  split
  · exact remark_stepwise hR hremark rfl _
  · rename_i body hbody
    refine hR.bind (hR.foldlM (fun shape entry hentry => ?_) _) fun _ _ => hR.pure _
    unfold addEntry
    split
    · exact remark_stepwise hR hremark rfl _
    · rename_i field hfield
      have hmem : field.expression ∈ fieldTexts (firstArgument constructor.args) := by
        unfold fieldTexts
        rw [hbody]
        exact List.mem_map_of_mem (List.mem_filterMap.2 ⟨entry, hentry, hfield⟩)
      exact hR.bind (h _ hmem) fun _ _ => hR.pure _

lemma chainType_stepwise (text : List Char) (hbounds : BoundsHave R calls)
    (hparts : ∀ part ∈ chainParts ctx calls, R TypeTree (inner visiting part))
    (hreference : Kind.ofChain ctx.table ctx.settings calls = .reference →
      R TypeTree (referenceType inner ctx.table visiting (calls.headD default).name)) :
    R TypeTree (chainType ctx inner visiting text calls) := by
  unfold chainParts at hparts
  unfold chainType
  simp only at hparts ⊢
  split
  · rename_i hkind
    exact hreference hkind
  · exact bounded_stepwise hR (hbounds.length _) _
  · exact bounded_stepwise hR (hbounds.range _) _
  · exact hR.pure _
  · exact enumType_stepwise hR hremark _ _
  · rename_i hkind
    refine arrayType_stepwise hR hremark (fun hne => hparts _ ?_) (hbounds.size _)
    simpa [hkind] using hne
  · rename_i hkind
    refine objectType_stepwise hR hremark (fun field hfield => hparts _ ?_) _ _
    simpa [hkind] using hfield
  · exact hR.pure _

/-- A level has a property if the bounds it may read, the parts of its chain and its reference have
it. -/
theorem callsType_stepwise (text : List Char) (hbounds : BoundsHave R calls)
    (hparts : ∀ part ∈ partsOf ctx calls, R TypeTree (inner visiting part))
    (hreference : ∀ name, referenceOf? ctx calls = some name →
      R TypeTree (referenceType inner ctx.table visiting name)) :
    R TypeTree (callsType ctx inner visiting text calls) := by
  unfold partsOf at hparts
  unfold callsType
  split
  · exact remark_stepwise hR hremark rfl _
  · rename_i hknown
    rw [if_neg hknown] at hparts
    split
    · rename_i place hplace
      rw [hplace] at hparts
      refine hR.bind (hparts _ List.mem_cons_self) fun _ _ => ?_
      exact bounded_stepwise hR (hbounds.size _) _
    · rename_i hplace
      rw [hplace] at hparts
      refine chainType_stepwise hR hremark text hbounds hparts fun hkind => hreference _ ?_
      unfold referenceOf?
      rw [hplace, hkind]

/-- A reference has what its cut has, or what its declaration has if it is not cut. -/
lemma referenceType_stepwise {table : Table} {name : String}
    (hcut : name ∈ visiting → R Unit (Run.emit (.cycle name)))
    (hinner : name ∉ visiting →
      R TypeTree (inner (name :: visiting) ((Entries.get? name table).getD []))) :
    R TypeTree (referenceType inner table visiting name) := by
  unfold referenceType
  split
  · rename_i hmem
    exact hR.bind (hcut (List.contains_iff_mem.1 hmem)) fun _ _ => hR.pure _
  · rename_i hmem
    refine hR.bind (hremark _ rfl) fun _ _ => ?_
    exact hinner fun hname => hmem (List.contains_iff_mem.2 hname)

end Stepwise

/-! ## Nothing strikes -/

section Avoids

variable (hown : ∀ event, event.isRemark = true → strikes event = false)

include hown

lemma remark_avoids {α : Type} {event : Event} (hevent : event.isRemark = true) (a : α) :
    (do Run.emit event; return a : Run α).Avoids strikes :=
  remark_stepwise (Run.stepwise_avoids strikes)
    (fun event hevent => Run.avoids_emit.2 (hown event hevent)) hevent a

/-- Nothing strikes on a level if nothing strikes in the parts of its chain, nor in its
reference. -/
theorem callsType_avoids (text : List Char)
    (hparts : ∀ part ∈ partsOf ctx calls, (inner visiting part).Avoids strikes)
    (hreference : ∀ name, referenceOf? ctx calls = some name →
      (referenceType inner ctx.table visiting name).Avoids strikes) :
    (callsType ctx inner visiting text calls).Avoids strikes :=
  callsType_stepwise (Run.stepwise_avoids strikes)
    (fun event hevent => Run.avoids_emit.2 (hown event hevent)) text
    ⟨fun _ => Run.avoids_ofDigits _, fun _ => Run.avoids_ofDigits _,
      fun _ => Run.avoids_ofDigits _⟩ hparts hreference

/-- A reference that is not cut strikes no more than its declaration. -/
lemma referenceType_avoids {table : Table} {name : String}
    (hcut : name ∈ visiting → strikes (.cycle name) = false)
    (hinner : name ∉ visiting →
      (inner (name :: visiting) ((Entries.get? name table).getD [])).Avoids strikes) :
    (referenceType inner table visiting name).Avoids strikes :=
  referenceType_stepwise (Run.stepwise_avoids strikes)
    (fun event hevent => Run.avoids_emit.2 (hown event hevent))
    (fun hmem => Run.avoids_emit.2 (hcut hmem)) hinner

end Avoids

/-! ## Everything has its turn -/

lemma clean_chainParts {text : List Char}
    (h : (chainType ctx inner visiting text calls).Clean strikes) {part : List Char}
    (hpart : part ∈ chainParts ctx calls) : (inner visiting part).Clean strikes := by
  unfold chainParts at hpart
  unfold chainType at h
  simp only at hpart h
  -- only arrays and objects have parts, and each part is a run inside that of the chain
  split at hpart
  · rename_i hkind
    rw [hkind] at h
    unfold arrayType at h
    split at hpart
    · exact absurd hpart List.not_mem_nil
    · rename_i hfull
      rw [List.mem_singleton.1 hpart]
      simp only [if_neg hfull] at h
      exact h.first
  · rename_i hkind
    rw [hkind] at h
    unfold fieldTexts at hpart
    unfold objectType at h
    simp only at h
    split at hpart
    · rename_i body hbody
      simp only [hbody] at h
      obtain ⟨field, hfield, rfl⟩ := List.mem_map.1 hpart
      obtain ⟨entry, hentry, hfield⟩ := List.mem_filterMap.1 hfield
      obtain ⟨shape, hstep⟩ := h.first.turn hentry
      unfold addEntry at hstep
      simp only [hfield] at hstep
      exact hstep.first
    · exact absurd hpart List.not_mem_nil
  · exact absurd hpart List.not_mem_nil

/-- A level that ends well has gone through all parts of its chain. -/
theorem clean_parts {text : List Char}
    (h : (callsType ctx inner visiting text calls).Clean strikes) {part : List Char}
    (hpart : part ∈ partsOf ctx calls) : (inner visiting part).Clean strikes := by
  unfold partsOf at hpart
  unfold callsType at h
  split at hpart
  · exact absurd hpart List.not_mem_nil
  · rename_i hknown
    rw [if_neg hknown] at h
    split at hpart
    · rename_i place hplace
      rw [List.mem_singleton.1 hpart]
      simp only [hplace] at h
      exact h.first
    · rename_i hplace
      simp only [hplace] at h
      exact clean_chainParts h hpart

/-- A level that ends well has gone through its reference. -/
theorem clean_reference {text : List Char}
    (h : (callsType ctx inner visiting text calls).Clean strikes) {name : String}
    (hname : referenceOf? ctx calls = some name) :
    (referenceType inner ctx.table visiting name).Clean strikes := by
  unfold referenceOf? at hname
  unfold callsType chainType at h
  split at hname
  · rename_i hplace hkind
    simp only [hplace, hkind] at h
    rw [← Option.some.inj hname]
    exact h
  · exact absurd hname (by simp)

/-- A reference that ends well is cut, or has gone through its declaration. -/
lemma clean_declaration {table : Table} {name : String}
    (h : (referenceType inner table visiting name).Clean strikes) :
    (name ∈ visiting ∧ strikes (.cycle name) = false) ∨
      (name ∉ visiting ∧
        (inner (name :: visiting) ((Entries.get? name table).getD [])).Clean strikes) := by
  unfold referenceType at h
  by_cases hmem : name ∈ visiting
  · rw [if_pos (List.contains_iff_mem.2 hmem)] at h
    exact Or.inl ⟨hmem, Run.avoids_emit.1 h.first.avoids⟩
  · rw [if_neg fun hcontains => hmem (List.contains_iff_mem.1 hcontains)] at h
    exact Or.inr ⟨hmem, h.second rfl⟩

end Compile
end SlideContract
