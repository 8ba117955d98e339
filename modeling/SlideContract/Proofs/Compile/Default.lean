import SlideContract.Proofs.Chain.Insertion
import SlideContract.Proofs.Compile.Reading

/-!
# Defaults leave no trace

A default between the calls of a chain changes nothing that is said about the chain: neither its
type nor the diagnostics about it, neither its kind nor whether it is optional. The chain before the
default has no slash in front of the dot of a call, as a pattern between slashes may have one;
behind the default anything may stand that goes on with no name and no argument list.

* `compile_insert`: the type, and the diagnostics;
* `compile_ne_insert`: behind a slash a default leaves a trace;
* `isOptional_insert`, `kind_insert`: whether the chain is optional, and its kind.
-/

namespace SlideContract.Compile
open Scan Text Chain

variable {front args more : List Char} {calls : List Call} {ctx : Context}

/-- Below the ceiling a text is compiled as what is left of it without its defaults. -/
lemma compile_succ_congr {text text' : List Char} (h : withoutDefaults text = withoutDefaults text')
    (levels : ℕ) (visiting : List String) :
    compile ctx (levels + 1) visiting text = compile ctx (levels + 1) visiting text' := by
  rw [compile_eq, compile_eq, h]

/-- A default that is put in changes neither the type of a chain nor the diagnostics about it. -/
theorem compile_insert (h : Spells Nested front calls) (hargs : Enclosed args) (hmore : Quits more)
    (levels : ℕ) (visiting : List String) :
    (compile ctx levels visiting (front ++ (defaultCall args ++ more))).result
        = (compile ctx levels visiting (front ++ more)).result ∧
      diagnosticsOf (compile ctx levels visiting (front ++ (defaultCall args ++ more))).events
        = diagnosticsOf (compile ctx levels visiting (front ++ more)).events := by
  cases levels with
  | zero =>
    -- at the ceiling the text is quoted in a note alone
    exact ⟨rfl, rfl⟩
  | succ levels =>
    rw [compile_succ_congr (withoutDefaults_insert h hargs hmore)]
    exact ⟨rfl, rfl⟩

/-- A chain with a pattern that reads as a default between two slashes. -/
def slashed : List Char := "z.string().regex(/.default(a)/)".toList

/-- Where the pattern is cut out, its slashes begin a comment. It swallows the end of the chain, or
the name of a default that is put in there, whose parenthesis then ends the chain. -/
theorem compile_ne_insert :
    Enclosed "\n\x22b\x22\n".toList ∧
    (compile {} 1 [] slashed).result = .ok .unknown ∧
    (compile {} 1 [] (slashed ++ defaultCall "\n\x22b\x22\n".toList)).result
      = .ok (.string {}) := by
  refine ⟨?_, ?_, ?_⟩
  · show regionLength? _ = some _
    decide +kernel
  · with_unfolding_all rfl
  · with_unfolding_all rfl

/-- A default that is put in makes no chain optional, nor required. -/
theorem isOptional_insert (h : Spells Nested front calls) (hargs : Enclosed args)
    (hmore : Quits more) (settings : Settings) :
    isOptional settings (front ++ (defaultCall args ++ more))
      = isOptional settings (front ++ more) := by
  unfold isOptional
  rw [withoutDefaults_insert h hargs hmore]

/-- A default that is put in does not change the kind of a chain. -/
theorem kind_insert (h : Spells Nested front calls) (hargs : Enclosed args) (hmore : Quits more)
    (table : Table) (settings : Settings) :
    Kind.ofText table settings (front ++ (defaultCall args ++ more))
      = Kind.ofText table settings (front ++ more) := by
  unfold Kind.ofText
  rw [withoutDefaults_insert h hargs hmore]

end SlideContract.Compile
