import SlideContract.Proofs.Compile.Field
import SlideContract.Proofs.Compile.Suffix

/-!
# Reading written trees

A written tree is compiled back into the tree, with no event on the way, if enough levels remain.
What is a field may carry the mark of an optional type behind it, which changes nothing.

* `lengthBounds_limitCalls`, `sizeBounds_limitCalls`, `rangeBounds_limitCalls`: the bounds that are
  read from the calls of bounds;
* `compile_builder_string` to `compile_builder_object`: one level of compilation, constructor by
  constructor;
* `compile_of_writes`: compiling undoes writing.
-/

namespace SlideContract.Compile
open Scan Text Chain

mutual

/-- The depth of the deepest part of a tree, where the tree itself stands at depth zero. -/
def depth : TypeTree → ℕ
  | .object properties _ => depthOfProperties properties
  | .array (some items) _ => depth items + 1
  | _ => 0

/-- The depth of the deepest part of properties. -/
def depthOfProperties : List (String × TypeTree) → ℕ
  | [] => 0
  | (_, tree) :: rest => max (depth tree + 1) (depthOfProperties rest)

end

lemma depth_of_mem {entry : String × TypeTree} {properties : List (String × TypeTree)}
    (h : entry ∈ properties) : depth entry.2 + 1 ≤ depthOfProperties properties := by
  induction properties with
  | nil => exact absurd h List.not_mem_nil
  | cons e rest ih =>
    obtain ⟨name, tree⟩ := e
    rw [depthOfProperties]
    rcases List.mem_cons.1 h with rfl | h
    · exact le_max_left _ _
    · exact (ih h).trans (le_max_right _ _)

/-! ## Bounds -/

variable {low high : Option ℤ} {extra : List Call}

/-- Steps that read each bound give the bounds. -/
lemma foldlM_limitCalls {step : Bounds → Call → Except TooManyDigits Bounds}
    (hmin : ∀ i ∈ low, ∀ b : Bounds,
      step b ⟨"min", some (numeral i)⟩ = .ok { b with min := some (.int i) })
    (hmax : ∀ i ∈ high, ∀ b : Bounds,
      step b ⟨"max", some (numeral i)⟩ = .ok { b with max := some (.int i) })
    (hextra : ∀ call ∈ extra, ∀ b, step b call = .ok b) :
    (limitCalls low high ++ extra).foldlM step {} = .ok (limits low high) := by
  have hlast : ∀ (b : Bounds), extra.foldlM step b = .ok b := by
    induction extra with
    | nil => exact fun b => rfl
    | cons call rest ih =>
      intro b
      rw [List.foldlM_cons, hextra call List.mem_cons_self b]
      exact ih (fun c hc => hextra c (List.mem_cons_of_mem _ hc)) b
  -- the lower bound is read first, into no bounds, and the upper one then keeps it
  have hlower : (low.map fun i => (⟨"min", some (numeral i)⟩ : Call)).toList.foldlM step {}
      = .ok { min := low.map .int } := by
    cases low with
    | none => rfl
    | some i =>
      rw [Option.map_some, Option.toList_some, List.foldlM_cons, hmin i rfl]
      rfl
  have hupper : ∀ b : Bounds, b.max = none →
      (high.map fun i => (⟨"max", some (numeral i)⟩ : Call)).toList.foldlM step b
        = .ok { b with max := high.map .int } := by
    intro b hb
    cases high with
    | none =>
      rw [Option.map_none, Option.map_none, ← hb]
      rfl
    | some i =>
      rw [Option.map_some, Option.toList_some, List.foldlM_cons, hmax i rfl]
      rfl
  have hboth := hupper { min := low.map .int } rfl
  unfold limitCalls
  rw [List.foldlM_append, List.foldlM_append, hlower]
  show (do let b ← List.foldlM step { min := low.map .int } _; extra.foldlM step b) = _
  rw [hboth]
  exact hlast _

lemma lengthStep_numeral {i : ℤ} (h : 0 ≤ i ∧ Readable i) (b : Bounds) (name : String) :
    lengthStep b ⟨name, some (numeral i)⟩ = .ok (setLength b name i.toNat) := by
  obtain ⟨n, rfl⟩ := Int.eq_ofNat_of_zero_le h.1
  unfold lengthStep
  simp only [firstArgument_part (isPart_numeral _), naturalArgument_numeral h.2]
  rfl

lemma rangeStep_numeral {i : ℤ} (h : Readable i) (b : Bounds) (name : String) :
    rangeStep b ⟨name, some (numeral i)⟩ = .ok (setRange b name (.int i)) := by
  unfold rangeStep
  simp only [firstArgument_part (isPart_numeral _), numberArgument_numeral h]
  rfl

lemma lengthStep_optional (b : Bounds) : lengthStep b optionalCall = .ok b := by
  unfold lengthStep optionalCall
  simp only [firstArgument_nil]
  rfl

lemma rangeStep_optional (b : Bounds) : rangeStep b optionalCall = .ok b := by
  unfold rangeStep optionalCall
  simp only [firstArgument_nil]
  rfl

/-- The bounds that are read from the calls of bounds. -/
lemma lengthBounds_limitCalls (hlow : IsSize low) (hhigh : IsSize high)
    (hextra : ∀ call ∈ extra, call = optionalCall) :
    lengthBounds (limitCalls low high ++ extra) = .ok (limits low high) := by
  apply foldlM_limitCalls
  · intro i hi b
    rw [lengthStep_numeral (hlow i hi)]
    unfold setLength
    rw [Int.toNat_of_nonneg (hlow i hi).1]
    rfl
  · intro i hi b
    rw [lengthStep_numeral (hhigh i hi)]
    unfold setLength
    rw [Int.toNat_of_nonneg (hhigh i hi).1]
    rfl
  · intro call hcall b
    rw [hextra call hcall, lengthStep_optional]

/-- Without a call of `nonempty` the bounds on a size are read as those on a length. -/
lemma sizeBounds_eq_lengthBounds {calls : List Call} (h : ∀ call ∈ calls, call.name ≠ "nonempty") :
    sizeBounds calls = lengthBounds calls := by
  have hfold : ∀ b, calls.foldlM sizeStep b = calls.foldlM lengthStep b := by
    induction calls with
    | nil => exact fun _ => rfl
    | cons call rest ih =>
      intro b
      have hstep : sizeStep b call = lengthStep b call := by
        unfold sizeStep
        rw [if_neg (by simpa using h call List.mem_cons_self)]
      rw [List.foldlM_cons, List.foldlM_cons, hstep]
      exact congrArg _ (funext (ih fun c hc => h c (List.mem_cons_of_mem _ hc)))
  exact hfold {}

/-- Behind a constructor stand calls of bounds and the mark of an optional type alone. -/
lemma name_of_mem_limitCalls (hextra : ∀ call ∈ extra, call = optionalCall) {call : Call}
    (h : call ∈ limitCalls low high ++ extra) : call.name ∈ ["min", "max", "optional"] := by
  rcases List.mem_append.1 h with h | h
  · rcases (bound_of_mem_limitCalls h).1 with hname | hname
    · simp [hname]
    · simp [hname]
  · simp [hextra call h, optionalCall]

lemma sizeBounds_limitCalls (hlow : IsSize low) (hhigh : IsSize high)
    (hextra : ∀ call ∈ extra, call = optionalCall) :
    sizeBounds (limitCalls low high ++ extra) = .ok (limits low high) := by
  have hnames : "nonempty" ∉ ["min", "max", "optional"] := by decide
  rw [sizeBounds_eq_lengthBounds, lengthBounds_limitCalls hlow hhigh hextra]
  intro call hcall hname
  exact hnames (hname ▸ name_of_mem_limitCalls hextra hcall)

lemma rangeBounds_limitCalls (hlow : IsLimit low) (hhigh : IsLimit high)
    (hextra : ∀ call ∈ extra, call = optionalCall) :
    rangeBounds (limitCalls low high ++ extra) = .ok (limits low high) := by
  apply foldlM_limitCalls
  · exact fun i hi b => rangeStep_numeral (hlow i hi) b "min"
  · exact fun i hi b => rangeStep_numeral (hhigh i hi) b "max"
  · intro call hcall b
    rw [hextra call hcall, rangeStep_optional]

/-! ## Chains -/

variable {ctx : Context} {constructor : String} {argument : List Char} {modifiers : List Call}

lemma builder_append (hnamespace : ctx.settings.builderNamespace = "z") (modifiers : List Call) :
    builder constructor argument ++ modifiers
      = constructed ctx.settings constructor argument modifiers := by
  unfold constructed
  rw [hnamespace]
  rfl

lemma kind_builder (hnamespace : ctx.settings.builderNamespace = "z")
    (htable : Entries.has "z" ctx.table = false) (modifiers : List Call) :
    Kind.ofChain ctx.table ctx.settings (builder constructor argument ++ modifiers)
      = Kind.ofConstructor constructor := by
  rw [builder_append hnamespace]
  exact ofChain_constructed (by rwa [hnamespace])

lemma headLength_builder (hnamespace : ctx.settings.builderNamespace = "z")
    (modifiers : List Call) :
    Kind.headLength ctx.settings (builder constructor argument ++ modifiers) = 2 := by
  rw [builder_append hnamespace]
  exact headLength_constructed

/-- Without a call of `array` behind the constructor there is no array suffix. -/
lemma arraySuffix?_builder (hnamespace : ctx.settings.builderNamespace = "z")
    (harray : ∀ call ∈ modifiers, call.name ≠ "array") :
    arraySuffix? ctx.settings (builder constructor argument ++ modifiers) = none := by
  rw [builder_append hnamespace]
  exact arraySuffix?_constructed fun call hcall => by simp [Call.wraps, harray call hcall]

/-- The text of a builder is compiled as its calls say. -/
lemma expressionType_builder (hnamespace : ctx.settings.builderNamespace = "z")
    (htable : Entries.has "z" ctx.table = false)
    (hkind : Kind.ofConstructor constructor ≠ .unknown)
    (hspelled : ∀ call ∈ builder constructor argument ++ modifiers, call.Spelled)
    (harray : ∀ call ∈ modifiers, call.name ≠ "array")
    (inner : List String → List Char → Run TypeTree) (visiting : List String) :
    expressionType ctx inner visiting (render (builder constructor argument ++ modifiers))
      = chainType ctx inner visiting (render (builder constructor argument ++ modifiers))
          (builder constructor argument ++ modifiers) := by
  have hpart := isPart_render hspelled (by simp [builder])
  have hparse := parse_render (fun call hcall => (hspelled call hcall).legible)
    (show builder constructor argument ++ modifiers ≠ [] by simp [builder])
  unfold expressionType
  rw [withoutDefaults_of_tame hpart.tame, trim_of_starts_stops hpart.starts hpart.stops]
  simp only [hparse, Option.getD_some, kind_builder hnamespace htable, if_neg hkind,
    arraySuffix?_builder hnamespace harray]

/-- One level of compilation of a constructor with bounds and marks behind it. -/
lemma compile_builder (hnamespace : ctx.settings.builderNamespace = "z")
    (htable : Entries.has "z" ctx.table = false) (hconstructor : constructor ∈ constructors)
    (hargument : Tame argument) (hextra : ∀ call ∈ extra, call = optionalCall) (levels : ℕ)
    (visiting : List String) :
    compile ctx (levels + 1) visiting
        (render (builder constructor argument ++ limitCalls low high ++ extra))
      = chainType ctx (compile ctx levels) visiting
          (render (builder constructor argument ++ (limitCalls low high ++ extra)))
          (builder constructor argument ++ (limitCalls low high ++ extra)) := by
  have hkinds : ∀ name ∈ constructors, Kind.ofConstructor name ≠ .unknown := by decide
  have hspelled : ∀ call ∈ builder constructor argument ++ (limitCalls low high ++ extra),
      call.Spelled := by
    intro call hcall
    rcases List.mem_append.1 hcall with hcall | hcall
    · exact spelled_builder hconstructor hargument call hcall
    rcases List.mem_append.1 hcall with hcall | hcall
    · exact spelled_limitCalls low high call hcall
    · rw [hextra call hcall]
      exact spelled_optional
  have hnames : "array" ∉ ["min", "max", "optional"] := by decide
  have harray : ∀ call ∈ limitCalls low high ++ extra, call.name ≠ "array" := by
    intro call hcall hname
    exact hnames (hname ▸ name_of_mem_limitCalls hextra hcall)
  rw [List.append_assoc]
  exact expressionType_builder hnamespace htable (hkinds _ hconstructor) hspelled harray _ visiting

/-- A list in brackets, with blanks behind its commas. -/
def bracketed (gap : List Char) (parts : List (List Char)) : List Char :=
  '[' :: (List.intercalate (',' :: gap) parts ++ [']'])

/-- The value that a part of the list of an enumeration stands for. -/
def valueOf (part : List Char) : List Char := (unquote part).getD (trim part)

lemma valueOf_enclosed {quote : Char} (h : isQuote quote = true) (body : List Char) :
    valueOf (enclosed quote body) = unescape body := by
  unfold valueOf
  rw [unquote_enclosed h, Option.getD_some]

/-- The values of an enumeration are those of the parts of its list, empty ones left out. -/
lemma enumType_bracketed {parts : List (List Char)} {gap : List Char} (hgap : Blanks gap)
    (hparts : ∀ part ∈ parts, IsPart part) (text : List Char) :
    enumType ⟨"enum", some (bracketed gap parts)⟩ text
      = pure (.enum (((parts.map valueOf).filter fun value => !value.isEmpty).map
          String.ofList)) := by
  have hlist := isPart_bracket (show closer? '[' = some ']' from rfl)
    (Tame.listed hgap fun part hpart => (hparts part hpart).tame)
  have hsplit := splitTopLevel_listed separates_comma hgap
    (fun part hpart => ⟨(hparts part hpart).tame.balanced, (hparts part hpart).uncut⟩)
    (fun part hpart => ⟨(hparts part hpart).starts, (hparts part hpart).stops,
      (hparts part hpart).nonempty⟩)
  have hlast : ('[' :: (List.intercalate (',' :: gap) parts ++ [']'])).getLast? = some ']' := by
    rw [← List.cons_append, List.getLast?_concat]
  have hinside : (('[' :: (List.intercalate (',' :: gap) parts ++ [']'])).drop 1).dropLast
      = List.intercalate (',' :: gap) parts := by
    rw [List.drop_one, List.tail_cons, List.dropLast_concat]
  have hconstructor : ("enum" == "literal") = false := by decide
  unfold bracketed enumType
  simp only [firstArgument_part hlist, hconstructor, hlast, hinside, hsplit, List.head?_cons]
  rfl

/-- What is read from the list of an enumeration. -/
lemma enumType_items {items : List (Char × String)} {gap : List Char} (hgap : Blanks gap)
    (hitems : ∀ item ∈ items, Quotes item.1 item.2 ∧ item.2 ≠ "") (text : List Char) :
    enumType ⟨"enum", some (itemsText gap items)⟩ text = pure (.enum (items.map (·.2))) := by
  have hparts : ∀ part ∈ items.map (fun item => literal item.1 item.2.toList), IsPart part := by
    intro part hpart
    obtain ⟨item, hitem, rfl⟩ := List.mem_map.1 hpart
    exact isPart_literal (hitems item hitem).1.1 (hitems item hitem).1.2
  have hvalues : (items.map fun item => literal item.1 item.2.toList).map valueOf
      = items.map fun item => item.2.toList := by
    rw [List.map_map]
    apply List.map_congr_left
    intro item hitem
    have hquote := (hitems item hitem).1.1
    exact (valueOf_enclosed hquote _).trans (unescape_escape (ne_line_of_isQuote hquote))
  -- no value is empty, so none is dropped
  have hkept : ((items.map fun item => item.2.toList).filter fun value => !value.isEmpty).map
      String.ofList = items.map (·.2) := by
    rw [List.filter_eq_self.2, List.map_map]
    · apply List.map_congr_left
      intro item _
      exact String.ofList_toList
    · intro value hvalue
      obtain ⟨item, hitem, rfl⟩ := List.mem_map.1 hvalue
      have hne := (hitems item hitem).2
      simpa using hne
  rw [← hkept, ← hvalues]
  exact enumType_bracketed hgap hparts text

lemma shapeBody?_brace {text : List Char} (h : Balanced text) :
    shapeBody? ('\x7b' :: (text ++ ['\x7d'])) = some text := by
  unfold shapeBody?
  rw [if_pos List.head?_cons, regionLength?_bracket rfl h.commented [], Option.map_some,
    List.drop_one, List.tail_cons, Nat.add_sub_cancel, List.take_left]

/-- What is read from the shape of an object. -/
lemma objectType_members {settings : Settings} (hnamespace : settings.builderNamespace = "z")
    {inner : List Char → Run TypeTree} {gap : List Char} {required : List String}
    (hgap : Blanks gap) {members : List Member} (hnames : (members.map (·.name)).Nodup)
    (hascending : required.Pairwise (· < ·))
    (hrequired : ∀ name ∈ required, name ∈ members.map (·.name))
    (hkeys : ∀ m ∈ members, WritesKey m.name.toList m.key)
    (htrees : ∀ m ∈ members, Writes m.tree m.calls)
    (hinner : ∀ m ∈ members, inner (render (m.expression required)) = pure m.tree)
    (hextra : ∀ call ∈ extra, call = optionalCall) :
    objectType inner settings ⟨"object", some (membersText gap required members)⟩ extra
      = pure (.object (members.map fun m => (m.name, m.tree)) required) := by
  have hparts : ∀ part ∈ members.map (·.text gap required), IsPart part := by
    intro part hpart
    obtain ⟨m, hm, rfl⟩ := List.mem_map.1 hpart
    obtain ⟨hcalls, hne⟩ := spelled_of_writes (htrees m hm)
    exact isPart_member hgap (hkeys m hm) hcalls hne
  -- printed members are tame parts without a comma at the top level, so splitting gives back the
  -- members
  have hlisted := Tame.listed hgap fun part hpart => (hparts part hpart).tame
  have hshape := isPart_bracket (show closer? '\x7b' = some '\x7d' from rfl) hlisted
  have hsplit := splitTopLevel_listed separates_comma hgap
    (fun part hpart => ⟨(hparts part hpart).tame.balanced, (hparts part hpart).uncut⟩)
    (fun part hpart => ⟨(hparts part hpart).starts, (hparts part hpart).stops,
      (hparts part hpart).nonempty⟩)
  have hbody := shapeBody?_brace hlisted.balanced
  have hfold := @shape_of_members settings inner gap required members hnamespace hgap hnames
    hascending hrequired hkeys htrees hinner
  have hpartial : (extra.any fun call => call.isCalled && call.name == "partial") = false := by
    rw [List.any_eq_false]
    intro call hcall
    rw [hextra call hcall]
    decide
  unfold membersText objectType
  simp only [firstArgument_part hshape, hbody, hsplit, hfold, hpartial, Run.pure_bind]
  rfl

/-! ## Trees -/

section Levels

variable (hnamespace : ctx.settings.builderNamespace = "z")
  (htable : Entries.has "z" ctx.table = false) (hextra : ∀ call ∈ extra, call = optionalCall)
  (levels : ℕ) (visiting : List String)

include hnamespace htable hextra

lemma compile_builder_string (hlow : IsSize low) (hhigh : IsSize high) :
    compile ctx (levels + 1) visiting
        (render (builder "string" [] ++ limitCalls low high ++ extra))
      = pure (.string (limits low high)) := by
  rw [compile_builder hnamespace htable (by decide) .nil hextra]
  unfold chainType
  simp only [kind_builder hnamespace htable, headLength_builder hnamespace]
  show (do return TypeTree.string (← Run.ofDigits (lengthBounds (limitCalls low high ++ extra))))
    = _
  rw [lengthBounds_limitCalls hlow hhigh hextra]
  rfl

lemma compile_builder_number (hlow : IsLimit low) (hhigh : IsLimit high) :
    compile ctx (levels + 1) visiting
        (render (builder "number" [] ++ limitCalls low high ++ extra))
      = pure (.number (limits low high)) := by
  rw [compile_builder hnamespace htable (by decide) .nil hextra]
  unfold chainType
  simp only [kind_builder hnamespace htable, headLength_builder hnamespace]
  show (do return TypeTree.number (← Run.ofDigits (rangeBounds (limitCalls low high ++ extra))))
    = _
  rw [rangeBounds_limitCalls hlow hhigh hextra]
  rfl

/-- A constructor that takes no bounds has no calls of bounds behind it. -/
lemma compile_unbounded {constructor : String} {argument : List Char}
    (hconstructor : constructor ∈ constructors) (hargument : Tame argument) :
    compile ctx (levels + 1) visiting (render (builder constructor argument ++ extra))
      = chainType ctx (compile ctx levels) visiting (render (builder constructor argument ++ extra))
          (builder constructor argument ++ extra) := by
  have hbuilder := @compile_builder none none extra ctx constructor argument hnamespace htable
    hconstructor hargument hextra levels visiting
  rwa [show limitCalls none none = [] from rfl, List.append_nil, List.nil_append] at hbuilder

lemma compile_builder_boolean :
    compile ctx (levels + 1) visiting (render (builder "boolean" [] ++ extra))
      = pure .boolean := by
  rw [compile_unbounded hnamespace htable hextra levels visiting (by decide) .nil]
  unfold chainType
  simp only [kind_builder hnamespace htable]
  rfl

lemma compile_builder_enum {items : List (Char × String)} {gap : List Char} (hgap : Blanks gap)
    (hitems : ∀ item ∈ items, Quotes item.1 item.2 ∧ item.2 ≠ "") :
    compile ctx (levels + 1) visiting (render (builder "enum" (itemsText gap items) ++ extra))
      = pure (.enum (items.map (·.2))) := by
  have hargument := tame_itemsText hgap fun item hitem => (hitems item hitem).1
  rw [compile_unbounded hnamespace htable hextra levels visiting (by decide) hargument]
  unfold chainType
  simp only [kind_builder hnamespace htable]
  exact enumType_items hgap hitems _

/-- An array is compiled one level above its items. -/
lemma compile_builder_array {items : TypeTree} {calls : List Call} (hlow : IsSize low)
    (hhigh : IsSize high) (hitems : Writes items calls)
    (hinner : compile ctx levels visiting (render calls) = pure items) :
    compile ctx (levels + 1) visiting
        (render (builder "array" (render calls) ++ limitCalls low high ++ extra))
      = pure (.array (some items) (limits low high)) := by
  obtain ⟨hspelled, hne⟩ := spelled_of_writes hitems
  have hpart := isPart_render hspelled hne
  have hempty : (render calls).isEmpty = false := by
    simp [hpart.nonempty]
  rw [compile_builder hnamespace htable (by decide) hpart.tame hextra]
  unfold chainType
  simp only [kind_builder hnamespace htable, headLength_builder hnamespace]
  show arrayType (compile ctx levels visiting) ⟨"array", some (render calls)⟩
    (limitCalls low high ++ extra) = _
  unfold arrayType
  simp only [firstArgument_part hpart, hempty, sizeBounds_limitCalls hlow hhigh hextra]
  show (do
    let items ← compile ctx levels visiting (render calls)
    return TypeTree.array (some items) (← Run.ofDigits (.ok (limits low high)))) = _
  rw [hinner]
  rfl

/-- An object is compiled one level above its fields. -/
lemma compile_builder_object {gap : List Char} {required : List String} {members : List Member}
    (hgap : Blanks gap) (hnames : (members.map (·.name)).Nodup)
    (hascending : required.Pairwise (· < ·))
    (hrequired : ∀ name ∈ required, name ∈ members.map (·.name))
    (hkeys : ∀ m ∈ members, WritesKey m.name.toList m.key)
    (htrees : ∀ m ∈ members, Writes m.tree m.calls)
    (hinner : ∀ m ∈ members,
      compile ctx levels visiting (render (m.expression required)) = pure m.tree) :
    compile ctx (levels + 1) visiting
        (render (builder "object" (membersText gap required members) ++ extra))
      = pure (.object (members.map fun m => (m.name, m.tree)) required) := by
  have hargument : Tame (membersText gap required members) :=
    tame_membersText hgap hkeys fun m hm => spelled_of_writes (htrees m hm)
  rw [compile_unbounded hnamespace htable hextra levels visiting (by decide) hargument]
  unfold chainType
  simp only [kind_builder hnamespace htable, headLength_builder hnamespace]
  exact objectType_members hnamespace hgap hnames hascending hrequired hkeys htrees hinner hextra

end Levels

/-- Compiling undoes writing, on every level and behind a mark of an optional type. -/
theorem compile_of_writes (hnamespace : ctx.settings.builderNamespace = "z")
    (htable : Entries.has "z" ctx.table = false) {tree : TypeTree} {calls : List Call}
    (h : Writes tree calls) {levels : ℕ} (hlevels : depth tree ≤ levels) (visiting : List String)
    (hextra : ∀ call ∈ extra, call = optionalCall) :
    compile ctx (levels + 1) visiting (render (calls ++ extra)) = pure tree := by
  -- the levels and the mark change on the way down, so that both are generalized
  induction h generalizing levels extra with
  | string low high hlow hhigh =>
    exact compile_builder_string hnamespace htable hextra levels visiting hlow hhigh
  | number low high hlow hhigh =>
    exact compile_builder_number hnamespace htable hextra levels visiting hlow hhigh
  | boolean => exact compile_builder_boolean hnamespace htable hextra levels visiting
  | enum items gap hne hitems hgap =>
    exact compile_builder_enum hnamespace htable hextra levels visiting hgap hitems
  | array items calls low high hlow hhigh hitems ih =>
    rw [depth] at hlevels
    apply compile_builder_array hnamespace htable hextra levels visiting hlow hhigh hitems
    obtain ⟨below, rfl⟩ := Nat.exists_eq_add_one.2 (Nat.zero_lt_of_lt hlevels)
    have hitem := @ih [] below (Nat.le_of_succ_le_succ hlevels)
      fun call hcall => absurd hcall List.not_mem_nil
    rwa [List.append_nil] at hitem
  | object members required gap hnames hascending hrequired hgap hkeys htrees ih =>
    rw [depth] at hlevels
    apply compile_builder_object hnamespace htable hextra levels visiting hgap hnames hascending
      hrequired hkeys htrees
    intro m hm
    have hdepth : depth m.tree + 1 ≤ levels :=
      (depth_of_mem (List.mem_map.2 ⟨m, hm, rfl⟩)).trans hlevels
    obtain ⟨below, rfl⟩ := Nat.exists_eq_add_one.2 (Nat.zero_lt_of_lt hdepth)
    apply ih m hm (Nat.le_of_succ_le_succ hdepth)
    intro call hcall
    split at hcall
    · exact absurd hcall List.not_mem_nil
    · exact List.mem_singleton.1 hcall

end SlideContract.Compile
