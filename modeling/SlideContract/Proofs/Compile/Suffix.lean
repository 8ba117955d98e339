import SlideContract.Proofs.Compile.Guard

/-!
# Modifiers behind a chain

What more calls behind a chain do to its type, as long as no call of `array` is among them: they
modify it, each in turn, unless the chain is a reference or unknown. A call of `array` wraps the
type of what stands before it.

* `arraySuffix?_append`, `arraySuffix?_last`: the place of the last call of `array`;
* `constructed`: the chains of the builder's constructors;
* `callsType_append`: the type of a chain with modifiers behind it.
-/

namespace SlideContract

/-- The call wraps what stands before it in an array. -/
def Call.wraps (c : Call) : Bool := c.isCalled && c.name == "array"

namespace Compile

/-! ## Modified types -/

/-- A type after one more modifier. -/
def modifyStep (tree : TypeTree) (call : Call) : Except TooManyDigits TypeTree :=
  match tree with
  | .string b => (lengthStep b call).map .string
  | .number b => (rangeStep b call).map .number
  | .array items b => (sizeStep b call).map (.array items)
  | .object properties required =>
    .ok (.object properties (if call.isCalled && call.name == "partial" then [] else required))
  | tree => .ok tree

/-- A type after modifiers. -/
def modify (tree : TypeTree) (calls : List Call) : Except TooManyDigits TypeTree :=
  calls.foldlM modifyStep tree

/-- Steps that go on inside a constructor go on inside it all the way. -/
lemma modify_of_step {step : Bounds → Call → Except TooManyDigits Bounds} {wrap : Bounds → TypeTree}
    (h : ∀ b call, modifyStep (wrap b) call = (step b call).map wrap) (calls : List Call)
    (b : Bounds) :
    modify (wrap b) calls = (calls.foldlM step b).map wrap := by
  unfold modify
  induction calls generalizing b with
  | nil => rfl
  | cons call rest ih =>
    rw [List.foldlM_cons, List.foldlM_cons, h]
    cases step b call with
    | error fault => rfl
    | ok b' => exact ih b'

/-- What modifiers leave of the required names of an object. -/
lemma modify_object (properties : List (String × TypeTree)) (calls : List Call)
    (required : List String) :
    modify (.object properties required) calls
      = .ok (.object properties
          (if calls.any fun call => call.isCalled && call.name == "partial" then []
            else required)) := by
  unfold modify
  induction calls generalizing required with
  | nil => rfl
  | cons call rest ih =>
    rw [List.foldlM_cons, List.any_cons]
    show List.foldlM modifyStep (.object properties _) rest = _
    rw [ih]
    cases call.isCalled && call.name == "partial" with
    | true => simp
    | false => simp

/-- Types without bounds and properties are modified by nothing. -/
lemma modify_of_forall {tree : TypeTree} (h : ∀ call, modifyStep tree call = .ok tree)
    (calls : List Call) : modify tree calls = .ok tree := by
  unfold modify
  induction calls with
  | nil => rfl
  | cons call rest ih =>
    rw [List.foldlM_cons, h]
    exact ih

/-! ## Array suffixes -/

variable {settings : Settings} {calls more front back : List Call} {call : Call}

lemma headLength_append (h : calls ≠ []) :
    Kind.headLength settings (calls ++ more) = Kind.headLength settings calls := by
  cases calls with
  | nil => exact absurd rfl h
  | cons head rest => rfl

/-- Calls that wrap nothing change no array suffix. -/
lemma arraySuffix?_append (hne : calls ≠ []) (hmore : ∀ call ∈ more, call.wraps = false) :
    arraySuffix? settings (calls ++ more) = arraySuffix? settings calls := by
  unfold arraySuffix?
  simp only [headLength_append hne, List.length_append, List.range_add, List.filter_append]
  -- none of the places behind the calls holds a call that wraps
  have hbehind : ((List.range more.length).map (calls.length + ·)).filter (fun i =>
      Kind.headLength settings calls ≤ i &&
        ((calls ++ more)[i]?).any fun call => call.isCalled && call.name == "array") = [] := by
    rw [List.filter_eq_nil_iff]
    intro i hi hany
    obtain ⟨k, hk, rfl⟩ := List.mem_map.1 hi
    rw [List.getElem?_append_right (Nat.le_add_right _ _), Nat.add_sub_cancel_left,
      Bool.and_eq_true] at hany
    cases hget : more[k]? with
    | none => simp [hget] at hany
    | some call =>
      have hwraps := hmore call (List.mem_of_getElem? hget)
      unfold Call.wraps at hwraps
      rw [hget, Option.any_some, hwraps] at hany
      exact absurd hany.2 (by decide)
  rw [hbehind, List.append_nil]
  congr 1
  apply List.filter_congr
  intro i hi
  rw [List.getElem?_append_left (List.mem_range.1 hi)]

/-- The last call that wraps is the array suffix, if it stands behind the head. -/
lemma arraySuffix?_last (hne : front ≠ []) (hhead : Kind.headLength settings front ≤ front.length)
    (hcall : call.wraps = true) (hback : ∀ call ∈ back, call.wraps = false) :
    arraySuffix? settings (front ++ call :: back) = some front.length := by
  have hsplit : front ++ call :: back = (front ++ [call]) ++ back := by simp
  rw [hsplit, arraySuffix?_append (by simp) hback]
  unfold arraySuffix?
  simp only [headLength_append hne, List.length_append, List.length_singleton, List.range_succ,
    List.filter_append]
  have hlast : (front ++ [call])[front.length]? = some call := by simp
  have hkept : ∀ i ∈ [front.length], (decide (Kind.headLength settings front ≤ i) &&
      ((front ++ [call])[i]?).any fun call => call.isCalled && call.name == "array") = true := by
    intro i hi
    rw [List.mem_singleton.1 hi, hlast, decide_eq_true hhead]
    exact hcall
  rw [List.filter_eq_self.2 hkept, List.getLast?_concat]

/-- Calls with one that wraps have a last one that does. -/
lemma exists_last_wraps (h : ∃ call ∈ calls, call.wraps = true) :
    ∃ front call back, calls = front ++ call :: back ∧ call.wraps = true ∧
      ∀ call ∈ back, call.wraps = false := by
  -- along the calls: the last one is in the rest if any there wraps, and is the first call
  -- otherwise
  induction calls with
  | nil =>
    obtain ⟨call, hcall, -⟩ := h
    exact absurd hcall List.not_mem_nil
  | cons head rest ih =>
    by_cases hrest : ∃ call ∈ rest, call.wraps = true
    · obtain ⟨front, call, back, rfl, hcall, hback⟩ := ih hrest
      exact ⟨head :: front, call, back, rfl, hcall, hback⟩
    · have hback : ∀ call ∈ rest, call.wraps = false := fun call hcall =>
        Bool.eq_false_iff.2 fun hwraps => hrest ⟨call, hcall, hwraps⟩
      obtain ⟨call, hcall, hwraps⟩ := h
      rcases List.mem_cons.1 hcall with rfl | hcall
      · exact ⟨[], call, rest, rfl, hwraps, hback⟩
      · exact absurd ⟨call, hcall, hwraps⟩ hrest

/-- At the head alone there is no array suffix. -/
lemma arraySuffix?_head
    (h : calls.length ≤ Kind.headLength settings calls) : arraySuffix? settings calls = none := by
  unfold arraySuffix?
  simp only
  rw [List.filter_eq_nil_iff.2, List.getLast?_nil]
  intro i hi hkept
  rw [Bool.and_eq_true, decide_eq_true_eq] at hkept
  exact absurd (Nat.lt_of_le_of_lt hkept.1 (List.mem_range.1 hi)) (Nat.not_lt.2 h)

/-! ## Constructors of the builder -/

/-- A constructor of the builder with an argument list, and calls behind it. -/
def constructed (settings : Settings) (name : String) (args : List Char) (more : List Call) :
    List Call :=
  ⟨settings.builderNamespace, none⟩ :: ⟨name, some args⟩ :: more

variable {name : String} {args : List Char}

lemma headLength_constructed :
    Kind.headLength settings (constructed settings name args more) = 2 := by
  simp [constructed, Kind.headLength, Kind.isNamespace]

/-- A constructor gives the kind, unless the builder's namespace is itself declared. -/
lemma ofChain_constructed {table : Table}
    (htable : Entries.has settings.builderNamespace table = false) :
    Kind.ofChain table settings (constructed settings name args more)
      = Kind.ofConstructor name := by
  simp [constructed, Kind.ofChain, htable, Kind.isNamespace, Call.isCalled]

/-- Calls that wrap nothing leave a constructor without an array suffix. -/
lemma arraySuffix?_constructed (hmore : ∀ call ∈ more, call.wraps = false) :
    arraySuffix? settings (constructed settings name args more) = none := by
  have hhead : arraySuffix? settings (constructed settings name args []) = none := by
    apply arraySuffix?_head
    rw [headLength_constructed]
    exact Nat.le_refl 2
  rw [← hhead]
  exact arraySuffix?_append (List.cons_ne_nil _ [⟨name, some args⟩]) hmore

/-! ## Kinds -/

variable {ctx : Context}

/-- A chain with its whole head keeps its kind with more calls behind it. -/
lemma ofChain_append (hne : calls ≠ [])
    (hhead : Kind.headLength ctx.settings calls ≤ calls.length) :
    Kind.ofChain ctx.table ctx.settings (calls ++ more)
      = Kind.ofChain ctx.table ctx.settings calls := by
  cases calls with
  | nil => exact absurd rfl hne
  | cons head rest =>
    cases rest with
    | cons constructor rest => rfl
    | nil =>
      have hbare : Kind.isNamespace ctx.settings head = false := by
        rw [Bool.eq_false_iff]
        intro hnamespace
        rw [Kind.headLength, if_pos hnamespace] at hhead
        exact absurd hhead (by simp)
      simp only [List.singleton_append, Kind.ofChain, hbare]
      rfl

/-- A chain of a constructor has two calls before its modifiers. -/
lemma headLength_of_ofChain {kind : Kind} (h : Kind.ofChain ctx.table ctx.settings calls = kind)
    (hreference : kind ≠ .reference) (hunknown : kind ≠ .unknown) :
    ∃ head constructor modifiers, calls = head :: constructor :: modifiers ∧
      Kind.headLength ctx.settings calls = 2 := by
  cases calls with
  | nil => exact absurd h.symm hunknown
  | cons head rest =>
    simp only [Kind.ofChain] at h
    split at h
    · exact absurd h.symm hreference
    · split at h
      · rename_i hnamespace
        cases rest with
        | nil => exact absurd h.symm hunknown
        | cons constructor modifiers =>
          refine ⟨head, constructor, modifiers, rfl, ?_⟩
          rw [Kind.headLength, if_pos hnamespace]
      · exact absurd h.symm hunknown

/-! ## The types of chains with modifiers behind them -/

/-- Bounds that are set by further modifiers modify the type that has them. -/
lemma bounds_append {step : Bounds → Call → Except TooManyDigits Bounds} {wrap : Bounds → TypeTree}
    (h : ∀ b call, modifyStep (wrap b) call = (step b call).map wrap) (calls more : List Call) :
    (do return wrap (← Run.ofDigits ((calls ++ more).foldlM step {})) : Run TypeTree)
      = (do return wrap (← Run.ofDigits (calls.foldlM step {}))) >>= fun tree =>
          Run.ofDigits (modify tree more) := by
  rw [List.foldlM_append]
  cases calls.foldlM step {} with
  | error fault => rfl
  | ok b =>
    show (do return wrap (← Run.ofDigits (more.foldlM step b)) : Run TypeTree)
      = Run.ofDigits (modify (wrap b) more)
    rw [modify_of_step h]
    cases more.foldlM step b with
    | error fault => rfl
    | ok b' => rfl

lemma enumType_append (constructor : Call) (text : List Char) (more : List Call) :
    enumType constructor text
      = enumType constructor text >>= fun tree => Run.ofDigits (modify tree more) := by
  have henum : ∀ values, modify (.enum values) more = .ok (.enum values) :=
    fun values => modify_of_forall (fun _ => rfl) more
  have hunknown : modify .unknown more = .ok .unknown := modify_of_forall (fun _ => rfl) more
  unfold enumType
  simp only
  split
  · split
    · show _ = Run.ofDigits (modify (.enum _) more)
      rw [henum]
      rfl
    · show _ = (do Run.emit _; Run.ofDigits (modify .unknown more))
      rw [hunknown]
      rfl
  · split
    · show _ = Run.ofDigits (modify (.enum _) more)
      rw [henum]
      rfl
    · show _ = (do Run.emit _; Run.ofDigits (modify (.enum []) more))
      rw [henum]
      rfl

lemma arrayType_append (inner : List Char → Run TypeTree) (constructor : Call)
    (modifiers more : List Call) :
    arrayType inner constructor (modifiers ++ more)
      = arrayType inner constructor modifiers >>= fun tree => Run.ofDigits (modify tree more) := by
  have hbounds := fun items : TypeTree =>
    @bounds_append sizeStep (.array (some items)) (fun _ _ => rfl) modifiers more
  unfold arrayType
  simp only
  split
  · rw [bind_assoc]
    congr 1
    funext _
    exact hbounds .unknown
  · rw [bind_assoc]
    congr 1
    funext items
    exact hbounds items

lemma objectType_append (inner : List Char → Run TypeTree) (constructor : Call)
    (modifiers more : List Call) :
    objectType inner settings constructor (modifiers ++ more)
      = objectType inner settings constructor modifiers >>= fun tree =>
          Run.ofDigits (modify tree more) := by
  unfold objectType
  simp only
  split
  · show _ = (do Run.emit _; Run.ofDigits (modify (.object [] []) more))
    rw [modify_object, ite_self]
    rfl
  · simp only [bind_assoc, List.any_append]
    congr 1
    funext shape
    show _ = Run.ofDigits (modify (.object _ _) more)
    rw [modify_object]
    cases modifiers.any fun call => call.isCalled && call.name == "partial" with
    | true => simp; rfl
    | false => rfl

variable {inner : List String → List Char → Run TypeTree} {visiting : List String}
  {text : List Char}

/-- Behind a constructor, modifiers modify the type. -/
lemma chainType_append (hkind : Kind.ofChain ctx.table ctx.settings calls ≠ .reference)
    (hknown : Kind.ofChain ctx.table ctx.settings calls ≠ .unknown) :
    chainType ctx inner visiting text (calls ++ more)
      = chainType ctx inner visiting text calls
        >>= fun tree => Run.ofDigits (modify tree more) := by
  -- the head is whole, so that `more` is added to the modifiers alone
  obtain ⟨head, constructor, modifiers, rfl, hhead⟩ := headLength_of_ofChain rfl hkind hknown
  have hsame := @ofChain_append _ more ctx (List.cons_ne_nil head (constructor :: modifiers))
    (by rw [hhead]; simp)
  have hhead' : Kind.headLength ctx.settings (head :: constructor :: modifiers ++ more) = 2 :=
    (headLength_append (by simp)).trans hhead
  unfold chainType
  simp only [hsame, hhead, hhead']
  cases h : Kind.ofChain ctx.table ctx.settings (head :: constructor :: modifiers) with
  | reference => exact absurd h hkind
  | string => exact bounds_append (fun _ _ => rfl) modifiers more
  | number => exact bounds_append (fun _ _ => rfl) modifiers more
  | boolean =>
    show _ = Run.ofDigits (modify .boolean more)
    rw [modify_of_forall fun _ => rfl]
    rfl
  | enum => exact enumType_append constructor text more
  | array => exact arrayType_append _ constructor modifiers more
  | object => exact objectType_append _ constructor modifiers more
  | unknown => exact absurd h hknown

lemma arraySuffix?_lt {place : ℕ} (h : arraySuffix? settings calls = some place) :
    place < calls.length := by
  unfold arraySuffix? at h
  have hmem := List.mem_of_getLast? h
  exact List.mem_range.1 (List.mem_filter.1 hmem).1

/-- A chain refers to a declaration, with no array around it. -/
def RefersTo (ctx : Context) (calls : List Call) : Prop :=
  Kind.ofChain ctx.table ctx.settings calls = .reference ∧ arraySuffix? ctx.settings calls = none

/-- Behind a chain that is no plain reference, modifiers modify its type. -/
theorem callsType_append (hne : calls ≠ [])
    (hhead : Kind.headLength ctx.settings calls ≤ calls.length)
    (hmore : ∀ call ∈ more, call.wraps = false) (h : ¬ RefersTo ctx calls) :
    callsType ctx inner visiting text (calls ++ more)
      = callsType ctx inner visiting text calls
        >>= fun tree => Run.ofDigits (modify tree more) := by
  have hkind := @ofChain_append _ more ctx hne hhead
  have hsuffix := @arraySuffix?_append ctx.settings _ more hne hmore
  unfold callsType
  rw [hkind, hsuffix]
  -- an unknown chain stays unknown; otherwise the modifiers are read behind those of the chain or
  -- its suffix
  split
  · show _ = (do Run.emit _; Run.ofDigits (modify .unknown more))
    rw [modify_of_forall fun _ => rfl]
    rfl
  · rename_i hknown
    cases hplace : arraySuffix? ctx.settings calls with
    | none =>
      refine chainType_append (fun hreference => h ⟨hreference, hplace⟩) hknown
    | some place =>
      have hlt := arraySuffix?_lt hplace
      simp only
      rw [List.take_append_of_le_length (Nat.le_of_lt hlt), List.drop_append_of_le_length hlt,
        bind_assoc]
      congr 1
      funext items
      exact bounds_append (fun _ _ => rfl) (calls.drop (place + 1)) more

/-- Modifiers behind a plain reference change nothing. -/
theorem callsType_append_of_refersTo (hne : calls ≠ [])
    (hhead : Kind.headLength ctx.settings calls ≤ calls.length)
    (hmore : ∀ call ∈ more, call.wraps = false) (h : RefersTo ctx calls) :
    callsType ctx inner visiting text (calls ++ more)
      = callsType ctx inner visiting text calls := by
  have hkind := @ofChain_append _ more ctx hne hhead
  have hsuffix := @arraySuffix?_append ctx.settings _ more hne hmore
  obtain ⟨hreference, hplace⟩ := h
  unfold callsType chainType
  rw [hkind, hsuffix, hreference, hplace]
  cases calls with
  | nil => exact absurd rfl hne
  | cons head rest => rfl

/-- An array of what a run describes, with the bounds that calls set. -/
def arrayOf (items : Run TypeTree) (modifiers : List Call) : Run TypeTree := do
  let tree ← items
  return .array (some tree) (← Run.ofDigits (sizeBounds modifiers))

/-- A call that wraps makes an array of what stands before it, with the bounds that the calls behind
it set. -/
theorem callsType_wraps (hne : front ≠ [])
    (hhead : Kind.headLength ctx.settings front ≤ front.length)
    (hknown : Kind.ofChain ctx.table ctx.settings front ≠ .unknown) (hcall : call.wraps = true)
    (hback : ∀ call ∈ back, call.wraps = false) :
    callsType ctx inner visiting text (front ++ call :: back)
      = arrayOf (inner visiting (Chain.render front)) back := by
  have hkind := @ofChain_append _ (call :: back) ctx hne hhead
  have hsuffix := arraySuffix?_last hne hhead hcall hback
  unfold callsType
  rw [hkind, if_neg hknown, hsuffix]
  simp only
  rw [List.take_left, ← List.drop_drop, List.drop_left, List.drop_one, List.tail_cons]
  rfl

/-- A chain of no known kind has no type, whatever stands behind it. -/
lemma result_callsType_unknown (h : Kind.ofChain ctx.table ctx.settings calls = .unknown) :
    (callsType ctx inner visiting text calls).result = .ok .unknown := by
  unfold callsType
  rw [if_pos h]
  rfl

/-- The type does not depend on the text that the calls were read from. -/
lemma result_callsType (text text' : List Char) (calls : List Call) :
    (callsType ctx inner visiting text calls).result
      = (callsType ctx inner visiting text' calls).result := by
  have henum :
      ∀ constructor, (enumType constructor text).result = (enumType constructor text').result := by
    intro constructor
    unfold enumType
    simp only
    split
    · split <;> rfl
    · split <;> rfl
  unfold callsType
  split
  · rfl
  · split
    · rfl
    · unfold chainType
      simp only
      split <;> first | rfl | exact henum _

end Compile
end SlideContract
