import SlideContract.Proofs.Scan.Plain
import SlideContract.Proofs.Settings.Accepted

/-!
# Names in settings

Settings that are read name the suffix of declarations and their namespace by identifiers, in which
nothing opens or closes.
-/

namespace SlideContract.Settings
open Scan Text

/-- The settings name the suffix of declarations and their namespace by identifiers. -/
structure Named (settings : Settings) : Prop where
  suffix : isIdentifier settings.nameSuffix.toList = true
  namespaceName : isIdentifier settings.builderNamespace.toList = true

/-- Settings that are read are named by identifiers. -/
theorem named_of_ofJson {value : Json} {settings : Settings} (h : ofJson value = .ok settings) :
    settings.Named := by
  obtain ⟨members, -, -, hfit⟩ := ofJson_eq_ok_iff.1 h
  exact ⟨isIdentifier_iff.2 hfit.nameSuffix, isIdentifier_iff.2 hfit.builderNamespace⟩

/-- Identifiers hold characters of names, but for a line break at the end. -/
lemma of_isIdentifier {name : List Char} (h : isIdentifier name = true) :
    ∀ c ∈ name, isNameChar c = true ∨ c = '\n' := by
  intro c hc
  rcases isIdentifier_iff.1 h with hname | ⟨front, hfront, rfl⟩
  · exact Or.inl (hname.isNameChar c hc)
  · rcases List.mem_append.1 hc with hc | hc
    · exact Or.inl (hfront.isNameChar c hc)
    · exact Or.inr (List.mem_singleton.1 hc)

/-- An identifier opens and closes nothing. -/
lemma not_mem_marks_of_isIdentifier {name : List Char} (h : isIdentifier name = true) :
    ∀ c ∈ name, c ∉ marks := by
  intro c hc
  rcases of_isIdentifier h c hc with hname | rfl
  · exact not_mem_marks_of_isNameChar hname
  · decide

lemma Named.semicolon {settings : Settings} (h : settings.Named) :
    ';' ∉ settings.nameSuffix.toList ∧ ';' ∉ settings.builderNamespace.toList :=
  ⟨fun hmem => not_mem_marks_of_isIdentifier h.suffix _ hmem (by decide),
    fun hmem => not_mem_marks_of_isIdentifier h.namespaceName _ hmem (by decide)⟩

end SlideContract.Settings
