import SlideContract.Proofs.Chain.Apart
import SlideContract.Proofs.Compile.Inline

/-!
# Objects by their bodies

An object is written with its fields between braces, as the argument of the builder's `object`. The
defaults are cut out of what stands between the braces, which is then split into its parts, and each
part adds to the shape what it says.

* `spells_constructed`: the expression of a constructor spells its calls;
* `compile_withArgument`: a constructor gives the kind of its expression;
* `compile_withBody`: an object is compiled by the parts of its body.
-/

namespace SlideContract.Compile
open Scan Text Chain

variable {ctx : Context} {settings : Settings} {constructor : String}
  {text body args more : List Char} {others : List Call}

/-! ## Expressions without their defaults -/

/-- What is left of an expression without its defaults is compiled as it is with them. -/
lemma compile_withoutDefaults (h : Nested text) (levels : ℕ) (visiting : List String) :
    compile ctx (levels + 1) visiting (trim (withoutDefaults text))
      = compile ctx (levels + 1) visiting text := by
  rw [compile_eq, compile_eq, trim_withoutDefaults_idem h]

/-- The ceiling gives no type, with the defaults and without them. -/
lemma result_compile_withoutDefaults (h : Nested text) (levels : ℕ) (visiting : List String) :
    (compile ctx levels visiting (trim (withoutDefaults text))).result
      = (compile ctx levels visiting text).result := by
  cases levels with
  | zero => rfl
  | succ levels => rw [compile_withoutDefaults h]

lemma isOptional_withoutDefaults (h : Nested text) :
    isOptional settings (trim (withoutDefaults text)) = isOptional settings text := by
  unfold isOptional
  rw [trim_withoutDefaults_idem h]

/-! ## Expressions of constructors -/

/-- A builder's constructor with its argument, and more calls behind it. -/
lemma spells_constructed (hbuilder : IsIdentifier settings.builderNamespace.toList)
    {constructor : List Char} (hconstructor : IsIdentifier constructor) {args : List Char}
    (h : Nested args) (hmore : SpellsRest Nested more others) :
    Spells Nested
      (settings.builderNamespace.toList ++ '.' :: (constructor ++ '(' :: (args ++ ')' :: more)))
      (constructed settings (String.ofList constructor) args others) := by
  have hhead : SpellsPart Nested settings.builderNamespace.toList
      ⟨settings.builderNamespace, none⟩ := by
    have hbare := SpellsPart.bare (P := Nested) blanks_nil hbuilder
    rwa [List.nil_append, String.ofList_toList] at hbare
  have hpart : SpellsPart Nested (constructor ++ '(' :: (args ++ [')']))
      ⟨String.ofList constructor, some args⟩ :=
    .called blanks_nil hconstructor blanks_nil h
  have hwhole := Spells.chain hhead (.part hpart hmore)
  rwa [List.append_assoc, List.cons_append, List.append_assoc, List.singleton_append] at hwhole

/-- The expression of a builder's constructor with its argument. -/
def withArgument (builder constructor : String) (args : List Char) : List Char :=
  builder.toList ++ '.' :: (constructor.toList ++ '(' :: (args ++ [')']))

lemma spells_withArgument (hbuilder : IsIdentifier settings.builderNamespace.toList)
    (hconstructor : IsIdentifier constructor.toList) (h : Nested args) :
    Spells Nested (withArgument settings.builderNamespace constructor args)
      (constructed settings constructor args []) := by
  have hspells := spells_constructed hbuilder hconstructor h .nil
  rwa [String.ofList_toList] at hspells

/-- The expression of a constructor is compiled as its calls say, without the defaults of its
argument. -/
lemma compile_calls (hbuilder : IsIdentifier ctx.settings.builderNamespace.toList)
    (hconstructor : IsIdentifier constructor.toList) (hdefault : constructor ≠ "default")
    (h : Nested args) (levels : ℕ) (visiting : List String) :
    compile ctx (levels + 1) visiting (withArgument ctx.settings.builderNamespace constructor args)
      = callsType ctx (compile ctx levels) visiting
          (trim (withoutDefaults (withArgument ctx.settings.builderNamespace constructor args)))
          (constructed ctx.settings constructor (withoutDefaults args) []) := by
  have hcleared : cleared (constructed ctx.settings constructor args [])
      = constructed ctx.settings constructor (withoutDefaults args) [] := by
    simp [constructed, cleared, clearedRest, Call.cleared, Call.setsDefault, hdefault]
  rw [compile_of_spells (spells_withArgument hbuilder hconstructor h), hcleared]

/-- A constructor gives the kind of its expression. -/
lemma compile_withArgument (hbuilder : IsIdentifier ctx.settings.builderNamespace.toList)
    (htable : Entries.has ctx.settings.builderNamespace ctx.table = false)
    (hconstructor : IsIdentifier constructor.toList)
    (hkind : Kind.ofConstructor constructor ≠ .unknown) (h : Nested args) (levels : ℕ)
    (visiting : List String) :
    compile ctx (levels + 1) visiting (withArgument ctx.settings.builderNamespace constructor args)
      = chainType ctx (compile ctx levels) visiting
          (trim (withoutDefaults (withArgument ctx.settings.builderNamespace constructor args)))
          (constructed ctx.settings constructor (withoutDefaults args) []) := by
  have hdefault : constructor ≠ "default" := by
    rintro rfl
    exact hkind (by decide)
  rw [compile_calls hbuilder hconstructor hdefault h]
  unfold callsType
  rw [ofChain_constructed htable, if_neg hkind,
    arraySuffix?_constructed fun call hcall => absurd hcall List.not_mem_nil]

/-- If the builder's namespace is itself declared, its constructors are references to it. -/
lemma compile_withArgument_of_has (hbuilder : IsIdentifier ctx.settings.builderNamespace.toList)
    (htable : Entries.has ctx.settings.builderNamespace ctx.table = true)
    (hconstructor : IsIdentifier constructor.toList) (hdefault : constructor ≠ "default")
    (h : Nested args) (levels : ℕ) (visiting : List String) :
    compile ctx (levels + 1) visiting (withArgument ctx.settings.builderNamespace constructor args)
      = referenceType (compile ctx levels) ctx.table visiting ctx.settings.builderNamespace := by
  have hkind : Kind.ofChain ctx.table ctx.settings
      (constructed ctx.settings constructor (withoutDefaults args) []) = .reference := by
    simp [constructed, Kind.ofChain, htable]
  rw [compile_calls hbuilder hconstructor hdefault h]
  unfold callsType chainType
  rw [hkind, arraySuffix?_constructed fun call hcall => absurd hcall List.not_mem_nil]
  rfl

/-! ## Objects -/

/-- A text between braces. -/
def braced (body : List Char) : List Char := '\x7b' :: (body ++ ['\x7d'])

/-- The expression of an object with a text between its braces. -/
def withBody (builder : String) (body : List Char) : List Char :=
  builder.toList ++ '.' :: ("object".toList ++ '(' :: (braced body ++ [')']))

lemma isIdentifier_object : IsIdentifier "object".toList := isIdentifier_of_letters (by decide)

lemma nested_braced (h : Nested body) : Nested (braced body) := h.bracket rfl

/-- The defaults in braces are those of the text between them. -/
lemma withoutDefaults_braced (h : Nested body) :
    withoutDefaults (braced body) = braced (withoutDefaults body) := by
  refine @withoutDefaults_between body ['\x7b'] ['\x7d'] ?_ ?_ h
  · exact fun h => (h.bracket rfl).balanced.plain
  · intro body h
    have hclose : callFrom [defaultName] (State.advance {} '\x7b') ['\x7d'] = none := rfl
    rw [List.singleton_append, callFrom_cons (by decide),
      callFrom_closer h.balanced (show closer? '\x7b' = some '\x7d' from rfl) ⟨rfl, rfl⟩, hclose,
      later_none, Option.or_none]
    rfl

lemma firstArgument_braced (h : Balanced body) :
    firstArgument (some (braced body)) = braced body := by
  have hsplit : splitTopLevel (braced body) ',' = [braced body] :=
    splitTopLevel_single separates_comma (h.bracket rfl) (uncut_bracket rfl h (by decide))
      (starts_cons (by decide) _) (stops_between (by decide) _ _) (List.cons_ne_nil _ _)
  unfold firstArgument
  rw [Option.getD_some, hsplit]
  rfl

/-- The shape that the parts of a body add up to. -/
def shapeOf (inner : List Char → Run TypeTree) (settings : Settings) (body : List Char) :
    Run Shape :=
  (splitTopLevel body ',').foldlM (addEntry inner settings) {}

/-- The type of an object by the parts of its body. -/
lemma objectType_braced (h : Balanced body) (inner : List Char → Run TypeTree) :
    objectType inner settings ⟨"object", some (braced body)⟩ [] = (do
      let shape ← shapeOf inner settings body
      return .object shape.properties shape.required) := by
  have hbody : shapeBody? (braced body) = some body := shapeBody?_brace h
  unfold objectType
  simp only [firstArgument_braced h, hbody]
  rfl

/-- An object is compiled by the parts of its body without defaults, on the next level. -/
theorem compile_withBody (hbuilder : IsIdentifier ctx.settings.builderNamespace.toList)
    (htable : Entries.has ctx.settings.builderNamespace ctx.table = false) (h : Nested body)
    (levels : ℕ) (visiting : List String) :
    compile ctx (levels + 1) visiting (withBody ctx.settings.builderNamespace body) = (do
      let shape ← shapeOf (compile ctx levels visiting) ctx.settings (withoutDefaults body)
      return .object shape.properties shape.required) := by
  have hkind : Kind.ofChain ctx.table ctx.settings
      (constructed ctx.settings "object" (braced (withoutDefaults body)) []) = .object :=
    ofChain_constructed htable
  have hobject := compile_withArgument hbuilder htable isIdentifier_object (by decide)
    (nested_braced h) levels visiting
  unfold chainType at hobject
  rw [withoutDefaults_braced h, hkind, headLength_constructed] at hobject
  exact hobject.trans (objectType_braced h.withoutDefaults.balanced _)

/-- If the builder's namespace is itself declared, no object is described, whatever its body is. -/
lemma compile_withBody_of_has (hbuilder : IsIdentifier ctx.settings.builderNamespace.toList)
    (htable : Entries.has ctx.settings.builderNamespace ctx.table = true) (h : Nested body)
    (levels : ℕ) (visiting : List String) :
    compile ctx (levels + 1) visiting (withBody ctx.settings.builderNamespace body)
      = referenceType (compile ctx levels) ctx.table visiting ctx.settings.builderNamespace :=
  compile_withArgument_of_has hbuilder htable isIdentifier_object (by decide) (nested_braced h)
    levels visiting

end SlideContract.Compile
