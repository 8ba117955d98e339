import Mathlib.Logic.Relation
import SlideContract.Proofs.Compile.Descent

/-!
# Cycles of references

A declaration refers to another if its text meets the name of the other before any reference is
followed. The declarations under way are those on the current path of references, so a name is cut
only if the path has led back to it; and a path that is never cut passes no declaration twice, so it
cannot go round a cycle.

* `Meets`, `Refers`, `Reaches`: what a text refers to, and what it leads to;
* `meets_iff_cut`: with every declaration under way, the names that are met are those that are cut;
* `reaches_of_cut`: a name that is cut is reached, and leads back to itself;
* `not_reaches_of_unguarded`: where no guard strikes, no cycle is reached.
-/

namespace SlideContract

/-- The event says that the name was cut. -/
def Event.cuts (name : String) (event : Event) : Bool := event == .cycle name

namespace Compile
open Relation

/-- The text meets the name: it is what the text refers to, or some part of the text meets it. -/
inductive Meets (ctx : Context) : List Char → String → Prop where
  | here {text : List Char} {name : String} (h : referenceOf? ctx (callsOf text) = some name) :
    Meets ctx text name
  | inside {text part : List Char} {name : String} (hpart : part ∈ partsOf ctx (callsOf text))
    (h : Meets ctx part name) : Meets ctx text name

/-- The text of a declaration. -/
def declared (ctx : Context) (name : String) : List Char := (Entries.get? name ctx.table).getD []

/-- A declaration refers to a name that its text meets. -/
def Refers (ctx : Context) (name other : String) : Prop :=
  Entries.has name ctx.table = true ∧ Meets ctx (declared ctx name) other

/-- A text reaches the names that it meets, and what these lead to. -/
def Reaches (ctx : Context) (text : List Char) (name : String) : Prop :=
  ∃ first, Meets ctx text first ∧ ReflTransGen (Refers ctx) first name

variable {ctx : Context} {levels : ℕ} {visiting : List String} {text : List Char} {name : String}

/-- Only declarations are met. -/
lemma Meets.has (h : Meets ctx text name) : Entries.has name ctx.table = true := by
  induction h with
  | here h => exact has_of_referenceOf? h
  | inside _ _ ih => exact ih

lemma cuts_of_isRemark {event : Event} (h : event.isRemark = true) (name : String) :
    event.cuts name = false := by
  cases event <;> first | rfl | exact absurd h Bool.false_ne_true

/-- A declaration that is cut at another name is not cut at this one. -/
lemma cuts_cycle {other : String} (h : other ≠ name) : (Event.cycle other).cuts name = false := by
  refine beq_false_of_ne fun heq => h ?_
  exact Event.cycle.inj heq

/-- A name that does not strike when it is cut is not cut. -/
lemma avoids_cuts_iff {run : Run TypeTree} :
    run.Avoids (Event.cuts name) ↔ Event.cycle name ∉ run.events := by
  constructor
  · intro h hmem
    have hfalse := h _ hmem
    rw [Event.cuts, beq_self_eq_true] at hfalse
    exact absurd hfalse (by decide)
  · intro h event hevent
    refine beq_false_of_ne ?_
    rintro rfl
    exact h hevent

/-- A name is not cut if something holds on every path of references that keeps it from being under
way when it is met. -/
lemma avoids_cuts (holds : List String → List Char → Prop)
    (hpart : ∀ {visiting text part}, holds visiting text → part ∈ partsOf ctx (callsOf text) →
      holds visiting part)
    (hfollow : ∀ {visiting text other}, holds visiting text →
      referenceOf? ctx (callsOf text) = some other → other ∉ visiting →
      holds (other :: visiting) (declared ctx other))
    (hcut : ∀ {visiting text}, holds visiting text →
      referenceOf? ctx (callsOf text) = some name → name ∉ visiting)
    (h : holds visiting text)
    (hdeep : (compile ctx levels visiting text).Clean Event.isTooDeep) :
    (compile ctx levels visiting text).Avoids (Event.cuts name) := by
  have hown : ∀ event : Event, event.isRemark = true → event.cuts name = false :=
    fun _ hremark => cuts_of_isRemark hremark name
  -- on the levels; `holds` goes along, to the parts of the text and over its reference
  induction levels generalizing visiting text with
  | zero => exact absurd hdeep.avoids (Run.not_avoids_emit rfl)
  | succ levels ih =>
    rw [compile_eq] at hdeep ⊢
    refine callsType_avoids hown _ ?_ ?_
    · intro part hmem
      exact ih (hpart h hmem) (clean_parts hdeep hmem)
    · intro other hother
      refine referenceType_avoids hown ?_ ?_
      · intro hvisiting
        refine cuts_cycle ?_
        rintro rfl
        exact hcut h hother hvisiting
      · intro hvisiting
        rcases clean_declaration (clean_reference hdeep hother) with ⟨hmem, -⟩ | ⟨-, hdeclared⟩
        · exact absurd hmem hvisiting
        · exact ih (hfollow h hother hvisiting) hdeclared

/-! ## What a text refers to -/

/-- Where all declarations are under way, a name that is met is cut. -/
lemma not_clean_of_meets (hall : Entries.names ctx.table ⊆ visiting)
    (hmeets : Meets ctx text name) :
    ¬ (compile ctx levels visiting text).Clean
      (fun event => event.isTooDeep || event.cuts name) := by
  intro hclean
  -- along the way to the name: at its end a declaration under way is cut, and on it parts are
  -- clean if the whole is
  induction hmeets generalizing levels with
  | @here text name href =>
    cases levels with
    | zero => exact Run.not_avoids_emit rfl hclean.avoids
    | succ levels =>
      rw [compile_eq] at hclean
      have hmem : name ∈ visiting :=
        hall ((Entries.has_iff_mem_names _ _).1 (has_of_referenceOf? href))
      rcases clean_declaration (clean_reference hclean href) with ⟨-, hstrikes⟩ | ⟨hnot, -⟩
      · rw [Event.cuts, beq_self_eq_true, Bool.or_true] at hstrikes
        exact absurd hstrikes (by decide)
      · exact hnot hmem
  | inside hpart _ ih =>
    cases levels with
    | zero => exact Run.not_avoids_emit rfl hclean.avoids
    | succ levels =>
      rw [compile_eq] at hclean
      exact ih (clean_parts hclean hpart)

/-- Compiling a text where all declarations are under way, so that no reference is followed, cuts
exactly the names that the text meets. -/
theorem meets_iff_cut (hall : Entries.names ctx.table ⊆ visiting)
    (hdeep : (compile ctx levels visiting text).Clean Event.isTooDeep) :
    Meets ctx text name ↔ Event.cycle name ∈ (compile ctx levels visiting text).events := by
  constructor
  · intro hmeets
    by_contra hnot
    refine not_clean_of_meets hall hmeets ⟨hdeep.ends, fun event hevent => ?_⟩
    rw [hdeep.avoids event hevent, avoids_cuts_iff.2 hnot event hevent, Bool.or_self]
  · intro hcut
    by_contra hnot
    refine avoids_cuts_iff.1 ?_ hcut
    refine avoids_cuts (fun visiting text =>
      Entries.names ctx.table ⊆ visiting ∧ ¬ Meets ctx text name) ?_ ?_ ?_ ⟨hall, hnot⟩ hdeep
    · intro visiting text part h hpart
      exact ⟨h.1, fun hmeets => h.2 (.inside hpart hmeets)⟩
    · -- with all declarations under way, no reference is followed
      intro visiting text other h hother hvisiting
      exact absurd (h.1 ((Entries.has_iff_mem_names _ _).1 (has_of_referenceOf? hother))) hvisiting
    · intro visiting text h hname
      exact absurd (.here hname) h.2

/-! ## Cycles that are cut -/

/-- The declarations under way lead to whatever the text meets, and a start has led there. -/
structure OnPath (ctx : Context) (start : List Char) (visiting : List String) (text : List Char) :
    Prop where
  leads : ∀ name ∈ visiting, Entries.has name ctx.table = true → ∀ other, Meets ctx text other →
    TransGen (Refers ctx) name other
  reached : ∀ other, Meets ctx text other → Reaches ctx start other

variable {start : List Char}

lemma OnPath.part (h : OnPath ctx start visiting text) {part : List Char}
    (hpart : part ∈ partsOf ctx (callsOf text)) : OnPath ctx start visiting part where
  leads name hname hhas other hmeets := h.leads name hname hhas other (.inside hpart hmeets)
  reached other hmeets := h.reached other (.inside hpart hmeets)

/-- A reference that is followed makes the path longer by one declaration. -/
lemma OnPath.follow (h : OnPath ctx start visiting text) {next : String}
    (hnext : referenceOf? ctx (callsOf text) = some next) :
    OnPath ctx start (next :: visiting) (declared ctx next) where
  leads name hname hhas other hmeets := by
    have hrefers : Refers ctx next other := ⟨has_of_referenceOf? hnext, hmeets⟩
    rcases List.mem_cons.1 hname with rfl | hname
    · exact .single hrefers
    · exact (h.leads name hname hhas next (.here hnext)).tail hrefers
  reached other hmeets := by
    obtain ⟨first, hfirst, hpath⟩ := h.reached next (.here hnext)
    exact ⟨first, hfirst, hpath.tail ⟨has_of_referenceOf? hnext, hmeets⟩⟩

/-- A name that is cut is reached from the start, and reaches itself. -/
theorem reaches_of_cut (h : OnPath ctx start visiting text)
    (hdeep : (compile ctx levels visiting text).Clean Event.isTooDeep)
    (hcut : Event.cycle name ∈ (compile ctx levels visiting text).events) :
    Reaches ctx start name ∧ TransGen (Refers ctx) name name := by
  by_contra hnot
  refine avoids_cuts_iff.1 ?_ hcut
  refine avoids_cuts (OnPath ctx start) ?_ ?_ ?_ h hdeep
  · intro visiting text part hpath hpart
    exact hpath.part hpart
  · intro visiting text other hpath hother _
    exact hpath.follow hother
  · intro visiting text hpath hname hvisiting
    have hmeets : Meets ctx text name := .here hname
    exact hnot ⟨hpath.reached name hmeets, hpath.leads name hvisiting hmeets.has name hmeets⟩

/-! ## Cycles that are reached -/

/-- A reference that no guard strikes at is followed. -/
lemma follows_of_meets {other : String} (hmeets : Meets ctx text other)
    (h : (compile ctx levels visiting text).Clean Event.isGuard) :
    other ∉ visiting ∧
      ∃ levels, (compile ctx levels (other :: visiting) (declared ctx other)).Clean
        Event.isGuard := by
  -- along the way to the reference: what is not guarded as a whole is not guarded in its parts
  induction hmeets generalizing levels with
  | here href =>
    cases levels with
    | zero => exact absurd h.avoids (Run.not_avoids_emit rfl)
    | succ levels =>
      rw [compile_eq] at h
      rcases clean_declaration (clean_reference h href) with ⟨-, hstrikes⟩ | ⟨hnot, hdeclared⟩
      · exact absurd (show true = false from hstrikes) (by decide)
      · exact ⟨hnot, levels, hdeclared⟩
  | inside hpart _ ih =>
    cases levels with
    | zero => exact absurd h.avoids (Run.not_avoids_emit rfl)
    | succ levels =>
      rw [compile_eq] at h
      exact ih (clean_parts h hpart)

/-- A walk along references where no guard strikes leaves behind it all that it has passed. -/
lemma exists_walk {first last : String} (hwalk : ReflTransGen (Refers ctx) first last)
    (hfirst : first ∈ visiting)
    (h : (compile ctx levels visiting (declared ctx first)).Clean Event.isGuard) :
    ∃ passed levels, visiting ⊆ passed ∧ last ∈ passed ∧
      (compile ctx levels passed (declared ctx last)).Clean Event.isGuard := by
  induction hwalk with
  | refl => exact ⟨visiting, levels, List.Subset.refl _, hfirst, h⟩
  | @tail last next _ hrefers ih =>
    obtain ⟨passed, levels, hsub, -, hclean⟩ := ih
    obtain ⟨-, levels, hnext⟩ := follows_of_meets hrefers.2 hclean
    exact ⟨next :: passed, levels, List.subset_cons_of_subset next hsub, List.mem_cons_self, hnext⟩

/-- Where no guard strikes, no name that is reached reaches itself. -/
theorem not_reaches_of_unguarded (h : (compile ctx levels visiting text).Clean Event.isGuard)
    (hreaches : Reaches ctx text name) : ¬ TransGen (Refers ctx) name name := by
  intro hcycle
  obtain ⟨first, hmeets, hwalk⟩ := hreaches
  obtain ⟨-, levels, hfirst⟩ := follows_of_meets hmeets h
  obtain ⟨passed, levels, -, hpassed, hname⟩ := exists_walk hwalk List.mem_cons_self hfirst
  -- once round the cycle, the last reference leads back to what is under way
  obtain ⟨last, haround, hback⟩ := TransGen.tail'_iff.1 hcycle
  obtain ⟨passed', levels, hsub, -, hlast⟩ := exists_walk haround hpassed hname
  exact (follows_of_meets hback.2 hlast).1 (hsub hpassed)

end Compile
end SlideContract
