import SlideContract.Proofs.Compile.Parts

/-!
# Arrays without items

An array that is written without an item expression gets an unknown item. To tell it from an item
that is written and not understood, expressions are compiled a second time in the same way, except
that such an array is left without items. The trees differ in nothing else.

* `TypeTree.filled`: the tree with an unknown item in every array that has none;
* `openCompile`: compilation that leaves arrays without items where none are written;
* `compile_eq_filled`: the compiled tree is the open one, filled.
-/

namespace SlideContract

namespace TypeTree

mutual

/-- The tree with an unknown item in every array that has none. -/
def filled : TypeTree → TypeTree
  | .array none b => .array (some .unknown) b
  | .array (some items) b => .array (some items.filled) b
  | .object properties required => .object (filledProperties properties) required
  | tree => tree

/-- The properties, each with unknown items in the arrays that have none. -/
def filledProperties : List (String × TypeTree) → List (String × TypeTree)
  | [] => []
  | (name, tree) :: rest => (name, tree.filled) :: filledProperties rest

end

lemma filledProperties_set (name : String) (tree : TypeTree)
    (properties : List (String × TypeTree)) :
    filledProperties (Entries.set name tree properties)
      = Entries.set name tree.filled (filledProperties properties) := by
  induction properties with
  | nil => simp only [Entries.set, filledProperties]
  | cons p rest ih =>
    obtain ⟨other, first⟩ := p
    by_cases h : other = name
    · simp only [Entries.set, filledProperties, if_pos h]
    · simp only [Entries.set, filledProperties, if_neg h, ih]

end TypeTree

namespace Compile
open TypeTree

/-! ## Arrays without items -/

/-- The type of an array whose items are compiled by `inner`, without items if none are written. -/
def openArrayType (inner : List Char → Run TypeTree) (constructor : Call) (modifiers : List Call) :
    Run TypeTree :=
  if (firstArgument constructor.args).isEmpty then do
    Run.emit .itemless
    return .array none (← Run.ofDigits (sizeBounds modifiers))
  else arrayType inner constructor modifiers

/-- The type that the calls of a chain describe, an array being open if no items are written. -/
def openCallsType (ctx : Context) (inner : List String → List Char → Run TypeTree)
    (visiting : List String) (text : List Char) (calls : List Call) : Run TypeTree :=
  if arraySuffix? ctx.settings calls = none ∧
      Kind.ofChain ctx.table ctx.settings calls = .array then
    openArrayType (inner visiting) (calls.getD 1 default)
      (calls.drop (Kind.headLength ctx.settings calls))
  else callsType ctx inner visiting text calls

/-- The type of an expression, arrays being open if no items are written. -/
def openCompile (ctx : Context) : ℕ → List String → List Char → Run TypeTree
  | 0, visiting, text => compile ctx 0 visiting text
  | levels + 1, visiting, text =>
    openCallsType ctx (openCompile ctx levels) visiting (Text.trim (Chain.withoutDefaults text))
      (callsOf text)

/-- The open type of an expression that stands at a depth. -/
def openExpression (ctx : Context) (visiting : List String) (depth : Int) (text : List Char) :
    Run TypeTree :=
  openCompile ctx (levels ctx.settings depth) visiting text

section Filled

variable {ctx : Context} {visiting : List String}

/-- The properties of a shape, filled. -/
def Shape.filled (shape : Shape) : Shape :=
  { shape with properties := filledProperties shape.properties }

lemma enumType_filled (constructor : Call) (text : List Char) :
    enumType constructor text = filled <$> enumType constructor text := by
  unfold enumType
  simp only
  split
  · split
    · simp only [map_pure, filled]
    · simp only [map_bind, map_pure, filled]
  · split
    · simp only [map_pure, filled]
    · simp only [map_bind, map_pure, filled]

variable {inner closed : List Char → Run TypeTree}
  (hinner : ∀ text, closed text = filled <$> inner text)

include hinner

lemma arrayType_filled (constructor : Call) (modifiers : List Call) :
    arrayType closed constructor modifiers
      = filled <$> openArrayType inner constructor modifiers := by
  unfold openArrayType arrayType
  simp only
  split
  · simp only [map_bind, map_pure, pure_bind, filled]
  · simp only [hinner, bind_map_left, map_bind, map_pure, filled]

lemma addEntry_filled (settings : Settings) (shape : Shape) (entry : List Char) :
    addEntry closed settings shape.filled entry
      = Shape.filled <$> addEntry inner settings shape entry := by
  unfold addEntry
  split
  · simp only [map_bind, map_pure]
  · simp only [hinner, bind_map_left, map_bind, map_pure, Shape.filled, filledProperties_set]

lemma foldlM_filled (settings : Settings) (entries : List (List Char)) (shape : Shape) :
    entries.foldlM (addEntry closed settings) shape.filled
      = Shape.filled <$> entries.foldlM (addEntry inner settings) shape := by
  induction entries generalizing shape with
  | nil => simp only [List.foldlM_nil, map_pure]
  | cons entry rest ih =>
    simp only [List.foldlM_cons, addEntry_filled hinner, bind_map_left, map_bind, ih]

lemma objectType_filled (settings : Settings) (constructor : Call) (modifiers : List Call) :
    objectType closed settings constructor modifiers
      = filled <$> objectType inner settings constructor modifiers := by
  unfold objectType
  simp only
  split
  · simp only [map_bind, map_pure, TypeTree.empty, filled, filledProperties]
  · rename_i body _
    have hfold := foldlM_filled hinner settings (Scan.splitTopLevel body ',') {}
    have hempty : Shape.filled {} = {} := rfl
    rw [hempty] at hfold
    simp only [hfold, bind_map_left, map_bind, map_pure, filled, Shape.filled]

end Filled

section Levels

variable {ctx : Context} {visiting : List String}
  {inner closed : List String → List Char → Run TypeTree}
  (hinner : ∀ visiting text, closed visiting text = filled <$> inner visiting text)

include hinner

lemma referenceType_filled (table : Table) (name : String) :
    referenceType closed table visiting name
      = filled <$> referenceType inner table visiting name := by
  unfold referenceType
  split
  · simp only [map_bind, map_pure, filled]
  · simp only [hinner, map_bind]

/-- A chain that is no array of its own is compiled alike, with open arrays below it. -/
lemma chainType_filled (text : List Char) {calls : List Call}
    (hkind : Kind.ofChain ctx.table ctx.settings calls ≠ .array) :
    chainType ctx closed visiting text calls
      = filled <$> chainType ctx inner visiting text calls := by
  unfold chainType
  simp only
  split
  · exact referenceType_filled hinner _ _
  · simp only [map_bind, map_pure, filled]
  · simp only [map_bind, map_pure, filled]
  · simp only [map_pure, filled]
  · exact enumType_filled _ _
  · rename_i harray
    exact absurd harray hkind
  · exact objectType_filled (hinner visiting) _ _ _
  · simp only [map_pure, filled]

lemma callsType_filled (text : List Char) (calls : List Call) :
    callsType ctx closed visiting text calls
      = filled <$> openCallsType ctx inner visiting text calls := by
  unfold openCallsType callsType
  split
  · rename_i hunknown
    have hopen : ¬(arraySuffix? ctx.settings calls = none ∧
        Kind.ofChain ctx.table ctx.settings calls = .array) := by
      rw [hunknown]
      exact fun h => Kind.noConfusion h.2
    rw [if_neg hopen]
    simp only [map_bind, map_pure, filled]
  · split
    · rename_i place hplace
      have hopen : ¬(arraySuffix? ctx.settings calls = none ∧
          Kind.ofChain ctx.table ctx.settings calls = .array) := by
        rw [hplace]
        exact fun h => absurd h.1 (by simp)
      rw [if_neg hopen]
      simp only [hinner, bind_map_left, map_bind, map_pure, filled]
    · rename_i hplace
      -- only the array of the chain itself is opened here, those below it by `inner`
      by_cases hkind : Kind.ofChain ctx.table ctx.settings calls = .array
      · rw [if_pos ⟨hplace, hkind⟩]
        unfold chainType
        simp only [hkind]
        exact arrayType_filled (hinner visiting) _ _
      · rw [if_neg fun h => hkind h.2]
        exact chainType_filled hinner text hkind

end Levels

/-- The compiled tree is the open one, with unknown items in the arrays that have none. -/
theorem compile_eq_filled (ctx : Context) (levels : ℕ) (visiting : List String)
    (text : List Char) :
    compile ctx levels visiting text = filled <$> openCompile ctx levels visiting text := by
  induction levels generalizing visiting text with
  | zero =>
    unfold openCompile compile
    simp only [map_bind, map_pure, filled]
  | succ levels ih =>
    rw [compile_eq]
    unfold openCompile callsOf
    exact callsType_filled ih _ _

end Compile
end SlideContract
