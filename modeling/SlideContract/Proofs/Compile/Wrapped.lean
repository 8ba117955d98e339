import SlideContract.Proofs.Compile.Braced

/-!
# Two spellings of an array

An array is written with a call of `array` behind the chain of its items, or with that chain as the
argument of the builder's `array`. Both describe the same type, with the bounds that the calls
behind them set, whatever calls the items have themselves: arrays, bounds and defaults among them.
Argument lists are nested, with no slash in front of the dot of a call: where a default is cut out
from behind such a slash, a comment may begin that only one of the two spellings loses.

* `compile_suffixed`, `compile_wrapped`: either spelling by the type of its items;
* `result_suffixed_eq_wrapped`: both have one type;
* `suffixed_ne_wrapped`: behind a slash they may have two.
-/

namespace SlideContract.Compile
open Scan Text Chain

variable {ctx : Context} {text more : List Char} {calls others : List Call}

/-- The chain of the items, a call of `array` behind it, and more calls. -/
def suffixed (text more : List Char) : List Char := text ++ (".array()".toList ++ more)

/-- The builder's `array` of the chain of the items, and more calls. -/
def wrapped (builder : String) (text more : List Char) : List Char :=
  builder.toList ++ (".array(".toList ++ (text ++ ')' :: more))

/-- Items of one type make arrays of one type. -/
lemma result_arrayOf_congr {items items' : Run TypeTree} (h : items.result = items'.result)
    (modifiers : List Call) :
    (arrayOf items modifiers).result = (arrayOf items' modifiers).result := by
  unfold arrayOf
  rw [Run.result_bind, Run.result_bind, h]

/-! ## What the two spell -/

lemma isIdentifier_array : IsIdentifier "array".toList := isIdentifier_of_letters (by decide)

lemma spells_suffixed (h : Spells Nested text calls) (hmore : SpellsRest Nested more others) :
    Spells Nested (suffixed text more) (calls ++ ⟨"array", some []⟩ :: others) :=
  h.append (.part (.called blanks_nil isIdentifier_array blanks_nil Nested.nil) hmore)

lemma spells_wrapped {settings : Settings}
    (hbuilder : IsIdentifier settings.builderNamespace.toList) (h : Nested text)
    (hmore : SpellsRest Nested more others) :
    Spells Nested (wrapped settings.builderNamespace text more)
      (constructed settings "array" text others) := by
  have hwhole := spells_constructed hbuilder isIdentifier_array h hmore
  have htext : settings.builderNamespace.toList
        ++ '.' :: ("array".toList ++ '(' :: (text ++ ')' :: more))
      = wrapped settings.builderNamespace text more := by
    simp [wrapped]
  rwa [htext, String.ofList_toList] at hwhole

/-- Without defaults no other calls wrap. -/
lemma wraps_of_mem_clearedRest (h : ∀ call ∈ calls, call.wraps = false) :
    ∀ call ∈ clearedRest calls, call.wraps = false := by
  intro call hcall
  obtain ⟨call', hmem, rfl⟩ := List.mem_map.1 hcall
  have hwraps := h call' (List.mem_of_mem_filter hmem)
  rwa [Call.wraps, Call.cleared_name, Call.isCalled_cleared]

/-! ## What the two describe -/

/-- A chain of a known kind is more than the bare namespace. -/
lemma headLength_of_known (htable : Entries.has ctx.settings.builderNamespace ctx.table = false)
    (hknown : Kind.ofChain ctx.table ctx.settings calls ≠ .unknown) :
    Kind.headLength ctx.settings calls ≤ calls.length := by
  cases calls with
  | nil => exact absurd rfl hknown
  | cons head rest =>
    cases hnamespace : Kind.isNamespace ctx.settings head with
    | false => simp [Kind.headLength, hnamespace]
    | true =>
      cases rest with
      | cons constructor modifiers => simp [Kind.headLength, hnamespace]
      | nil =>
        -- the namespace names no declaration, and no constructor stands behind it
        have hname : head.name = ctx.settings.builderNamespace := by
          unfold Kind.isNamespace at hnamespace
          rw [Bool.and_eq_true, beq_iff_eq] at hnamespace
          exact hnamespace.1
        refine absurd ?_ hknown
        rw [Kind.ofChain, hname, htable, Bool.and_false, if_neg Bool.false_ne_true,
          if_pos hnamespace]

/-- A call of `array` behind a chain makes an array of it. -/
theorem compile_suffixed (htable : Entries.has ctx.settings.builderNamespace ctx.table = false)
    (h : Spells Nested text calls) (hknown : Kind.ofText ctx.table ctx.settings text ≠ .unknown)
    (hmore : SpellsRest Nested more others) (hwraps : ∀ call ∈ others, call.wraps = false)
    (levels : ℕ) (visiting : List String) :
    compile ctx (levels + 1) visiting (suffixed text more)
      = arrayOf (compile ctx levels visiting (render (cleared calls))) (clearedRest others) := by
  have hkind : Kind.ofChain ctx.table ctx.settings (cleared calls) ≠ .unknown := by
    unfold Kind.ofText at hknown
    rwa [h.withoutDefaults.parse_eq] at hknown
  have hhead := headLength_of_known htable hkind
  have hcalls : calls ≠ [] := by
    rintro rfl
    exact cleared_ne_nil h rfl
  have hcleared : cleared (calls ++ ⟨"array", some []⟩ :: others)
      = cleared calls ++ (⟨"array", some []⟩ : Call).cleared :: clearedRest others :=
    cleared_append hcalls
  rw [compile_of_spells (spells_suffixed h hmore), hcleared]
  exact callsType_wraps (cleared_ne_nil h) hhead hkind rfl (wraps_of_mem_clearedRest hwraps)

/-- The array whose argument list is a chain. -/
lemma arrayType_of_spells (h : Spells Nested text calls) (inner : List Char → Run TypeTree)
    (modifiers : List Call) :
    arrayType inner ⟨"array", some text⟩ modifiers = arrayOf (inner (trim text)) modifiers := by
  obtain ⟨-, -, hne⟩ := h.trim_ends
  have hargument : firstArgument (some text) = trim text := by
    unfold firstArgument
    rw [Option.getD_some, splitTopLevel_trim separates_comma h.nested.balanced
      (h.mono fun _ hargs => hargs.balanced).uncut hne]
    rfl
  have hempty : (trim text).isEmpty = false := List.isEmpty_eq_false_iff.2 hne
  unfold arrayType
  simp only [hargument, hempty]
  rfl

/-- The builder's `array` of a chain makes an array of it. -/
theorem compile_wrapped (hbuilder : IsIdentifier ctx.settings.builderNamespace.toList)
    (htable : Entries.has ctx.settings.builderNamespace ctx.table = false)
    (h : Spells Nested text calls) (hmore : SpellsRest Nested more others)
    (hwraps : ∀ call ∈ others, call.wraps = false) (levels : ℕ) (visiting : List String) :
    compile ctx (levels + 1) visiting (wrapped ctx.settings.builderNamespace text more)
      = arrayOf (compile ctx levels visiting (trim (withoutDefaults text)))
          (clearedRest others) := by
  have hspells := spells_wrapped hbuilder h.nested hmore
  have hcleared : cleared (constructed ctx.settings "array" text others)
      = constructed ctx.settings "array" (withoutDefaults text) (clearedRest others) := rfl
  rw [compile_of_spells hspells, hcleared]
  unfold callsType chainType
  rw [ofChain_constructed htable, arraySuffix?_constructed (wraps_of_mem_clearedRest hwraps),
    headLength_constructed]
  exact arrayType_of_spells h.withoutDefaults _ _

/-- The calls that are left of a chain describe what the chain without defaults does. -/
lemma result_compile_render (h : Spells Nested text calls) (levels : ℕ) (visiting : List String) :
    (compile ctx levels visiting (render (cleared calls))).result
      = (compile ctx levels visiting (trim (withoutDefaults text))).result := by
  cases levels with
  | zero => rfl
  | succ levels =>
    -- both texts spell the calls without defaults, one of them with blanks between the parts
    have hclear := cleared_cleared fun call hcall => (h.legible call hcall).args
    have hrender := spells_render (h.withoutDefaults.legible) (cleared_ne_nil h)
    rw [compile_of_spells hrender, compile_of_spells h.withoutDefaults.trim, hclear]
    exact result_callsType _ _ _

/-- An array has the same type in both spellings. -/
theorem result_suffixed_eq_wrapped
    (hbuilder : IsIdentifier ctx.settings.builderNamespace.toList)
    (htable : Entries.has ctx.settings.builderNamespace ctx.table = false)
    (h : Spells Nested text calls) (hknown : Kind.ofText ctx.table ctx.settings text ≠ .unknown)
    (hmore : SpellsRest Nested more others) (hwraps : ∀ call ∈ others, call.wraps = false)
    (levels : ℕ) (visiting : List String) :
    (compile ctx levels visiting (suffixed text more)).result
      = (compile ctx levels visiting
          (wrapped ctx.settings.builderNamespace text more)).result := by
  cases levels with
  | zero => rfl
  | succ levels =>
    -- the items of both stand one level below, so that they meet the ceiling together
    rw [compile_suffixed htable h hknown hmore hwraps,
      compile_wrapped hbuilder htable h hmore hwraps]
    exact result_arrayOf_congr (result_compile_render h levels visiting) _

/-- A chain with a default between a slash and a star. -/
def starred : List Char := "z.string().min(3.default/.default(1)*x*/(2))".toList

/-- Where the default is cut out, a comment begins. As an argument of `array` the chain loses it, so
that another default comes about and is cut out, which leaves a bound. -/
theorem suffixed_ne_wrapped :
    (compile {} 2 [] (suffixed starred [])).result = .ok (.array (some (.string {})) {}) ∧
    (compile {} 2 [] (wrapped "z" starred [])).result
      = .ok (.array (some (.string { min := some (.int 3) })) {}) := by
  refine ⟨?_, ?_⟩
  · with_unfolding_all rfl
  · with_unfolding_all rfl

end SlideContract.Compile
