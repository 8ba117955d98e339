import SlideContract.Proofs.Compile.Length
import SlideContract.Proofs.Compile.Parts
import SlideContract.Proofs.Compile.Suffix

/-!
# How deep compilation goes

Every step down either goes to a shorter text or puts one more declaration under way, which makes
its text count no more. So the length of a text, and those of the declarations that are not under
way, bound how deep compilation goes, whatever the declarations refer to: below a ceiling with that
much room, the other guard suffices.

* `pending_cons`: a declaration that comes under way is pending no more;
* `length_of_mem_partsOf`: the parts of a chain are shorter than it is;
* `compile_sinks`: with as many levels as a text counts for, the ceiling is not reached;
* `expression_of_room`: with enough room, the ceiling is never reached.
-/

namespace SlideContract.Compile
open Chain

/-- How much the declarations that are not under way count for: the lengths of their texts, and one
for each. -/
def pending : Table → List String → ℕ
  | [], _ => 0
  | (name, text) :: table, visiting =>
    (if visiting.contains name then 0 else text.length + 1) + pending table visiting

lemma pending_entry (name : String) (text : List Char) (table : Table) (visiting : List String) :
    pending ((name, text) :: table) visiting
      = (if name ∈ visiting then 0 else text.length + 1) + pending table visiting := by
  rw [pending]
  by_cases h : name ∈ visiting
  · rw [if_pos (List.contains_iff_mem.2 h), if_pos h]
  · rw [if_neg fun hmem => h (List.contains_iff_mem.1 hmem), if_neg h]

lemma pending_mono {table : Table} {visiting : List String} (name : String) :
    pending table (name :: visiting) ≤ pending table visiting := by
  induction table with
  | nil => exact le_refl _
  | cons entry table ih =>
    rw [pending_entry, pending_entry]
    refine Nat.add_le_add ?_ ih
    split_ifs with hcons hmem hmem
    · exact le_refl _
    · exact Nat.zero_le _
    · exact absurd (List.mem_cons_of_mem _ hmem) hcons
    · exact le_refl _

/-- A declaration that comes under way is pending no more. -/
lemma pending_cons {table : Table} {visiting : List String} {name : String} {text : List Char}
    (hentry : Entries.get? name table = some text) (hname : name ∉ visiting) :
    text.length + 1 + pending table (name :: visiting) ≤ pending table visiting := by
  -- along the table: the entry that comes under way no longer counts, and every other counts as
  -- before
  induction table with
  | nil => exact absurd hentry (by simp [Entries.get?])
  | cons entry table ih =>
    obtain ⟨other, value⟩ := entry
    rw [pending_entry, pending_entry]
    unfold Entries.get? at hentry
    split at hentry
    · rename_i heq
      subst heq
      rw [Option.some.inj hentry, if_pos List.mem_cons_self, if_neg hname, Nat.zero_add]
      exact Nat.add_le_add_left (pending_mono other) _
    · rename_i hne
      have hsame : other ∈ name :: visiting ↔ other ∈ visiting := by
        rw [List.mem_cons, or_iff_right hne]
      have hrest := ih hentry
      simp only [hsame]
      omega

/-! ## One level -/

variable {ctx : Context} {visiting : List String} {calls : List Call}

lemma ofConstructor_ne_reference (name : String) : Kind.ofConstructor name ≠ .reference := by
  unfold Kind.ofConstructor
  split <;> decide

/-- A chain of a reference begins with the name of a declaration. -/
lemma has_of_reference {settings : Settings} {table : Table}
    (h : Kind.ofChain table settings calls = .reference) :
    Entries.has (calls.headD default).name table = true := by
  cases calls with
  | nil => exact absurd h (by simp [Kind.ofChain])
  | cons head rest =>
    simp only [Kind.ofChain] at h
    split at h
    · rename_i hhead
      rw [Bool.and_eq_true] at hhead
      exact hhead.2
    · -- a constructor is no reference
      split at h
      · cases rest with
        | nil => exact absurd h (by simp)
        | cons constructor rest =>
          dsimp only at h
          split at h
          · exact absurd h (ofConstructor_ne_reference constructor.name)
          · exact absurd h (by simp)
      · exact absurd h (by simp)

/-- The constructor of a chain is one of its calls. -/
lemma constructor_mem {kind : Kind} (h : Kind.ofChain ctx.table ctx.settings calls = kind)
    (hreference : kind ≠ .reference) (hunknown : kind ≠ .unknown) :
    calls.getD 1 default ∈ calls := by
  obtain ⟨head, constructor, modifiers, rfl, -⟩ := headLength_of_ofChain h hreference hunknown
  exact List.mem_cons_of_mem head List.mem_cons_self

/-- An array suffix stands behind the first call. -/
lemma arraySuffix?_pos {settings : Settings} {place : ℕ} (hne : calls ≠ [])
    (h : arraySuffix? settings calls = some place) : 0 < place := by
  unfold arraySuffix? at h
  have hkept := (List.mem_filter.1 (List.mem_of_getLast? h)).2
  rw [Bool.and_eq_true, decide_eq_true_eq] at hkept
  refine lt_of_lt_of_le ?_ hkept.1
  cases calls with
  | nil => exact absurd rfl hne
  | cons head rest =>
    simp only [Kind.headLength]
    split_ifs <;> decide

/-- What a chain refers to is a declaration. -/
lemma has_of_referenceOf? {name : String} (h : referenceOf? ctx calls = some name) :
    Entries.has name ctx.table = true := by
  unfold referenceOf? at h
  split at h
  · rename_i hkind
    rw [← Option.some.inj h]
    exact has_of_reference hkind
  · exact absurd h (by simp)

/-- The parts of a chain are shorter than it is. -/
lemma length_of_mem_partsOf {part : List Char} (h : part ∈ partsOf ctx calls) :
    part.length < (render calls).length := by
  unfold partsOf at h
  -- a part is a beginning of the chain, an argument of it, or a field inside that argument
  split at h
  · exact absurd h List.not_mem_nil
  · rename_i hknown
    split at h
    · rename_i place hplace
      have hne : calls ≠ [] := by
        rintro rfl
        exact hknown rfl
      rw [List.mem_singleton.1 h]
      exact length_render_take (arraySuffix?_pos hne hplace) (arraySuffix?_lt hplace)
    · unfold chainParts at h
      simp only at h
      split at h
      · rename_i hkind
        split at h
        · exact absurd h List.not_mem_nil
        · rename_i hfull
          rw [List.mem_singleton.1 h]
          exact length_firstArgument_lt (constructor_mem hkind (by decide) (by decide))
            (by simpa using hfull)
      · rename_i hkind
        refine (sublist_of_mem_fieldTexts h).length_le.trans_lt ?_
        refine length_firstArgument_lt (constructor_mem hkind (by decide) (by decide)) ?_
        intro hnil
        rw [hnil] at h
        exact absurd h List.not_mem_nil
      · exact absurd h List.not_mem_nil

/-! ## All levels -/

/-- With as many levels as a text counts for, the ceiling is not reached. -/
lemma compile_sinks (ctx : Context) {levels : ℕ} {visiting : List String} {text : List Char}
    (h : text.length + pending ctx.table visiting < levels) :
    (compile ctx levels visiting text).Avoids Event.isTooDeep := by
  induction levels generalizing visiting text with
  | zero => exact absurd h (Nat.not_lt_zero _)
  | succ levels ih =>
    have hown : ∀ event : Event, event.isRemark = true → event.isTooDeep = false := by
      intro event hremark
      cases event <;> first | rfl | exact absurd hremark Bool.false_ne_true
    rw [compile_eq]
    cases hparse : parse (Text.trim (withoutDefaults text)) with
    | none => exact remark_avoids hown rfl _
    | some calls =>
      -- the calls count for no more than the text they were read from
      have hrender := ((sublist_render hparse).trans (sublist_trim_withoutDefaults text)).length_le
      rw [Option.getD_some]
      refine callsType_avoids hown _ (fun part hpart => ih ?_) fun name hname => ?_
      · have hshorter := length_of_mem_partsOf hpart
        omega
      · refine referenceType_avoids hown (fun _ => rfl) fun hvisiting => ih ?_
        obtain ⟨declared, hdeclared⟩ := Option.isSome_iff_exists.1 (has_of_referenceOf? hname)
        -- the text of the declaration comes in for what it counted for as pending
        have hless := pending_cons hdeclared hvisiting
        rw [hdeclared, Option.getD_some]
        omega

/-- With room below the ceiling for the lengths of the expression and of all declarations that are
not under way, and for one step to each of these, the ceiling is never reached, even if declarations
refer to themselves or to each other. -/
theorem expression_of_room (ctx : Context) (visiting : List String) (depth : Int)
    (text : List Char)
    (h : depth + text.length + pending ctx.table visiting ≤ ctx.settings.maxDepth) :
    ∀ d ∈ diagnosticsOf (expression ctx visiting depth text).events, d.kind ≠ .depthExceeded := by
  refine (Event.forall_eq_false_iff fun _ => Event.isTooDeep_iff).1 ?_
  refine compile_sinks ctx ?_
  unfold levels
  omega

/-- Two declarations that refer to each other. -/
def intertwined : Context :=
  { table := [("PageSchema", "z.object(\x7bnext: PartSchema\x7d)".toList),
      ("PartSchema", "z.array(PageSchema)".toList)]
    settings := { maxDepth := 60 } }

/-- Their cycle is cut before the ceiling is reached. -/
theorem expression_of_room_intertwined :
    .cycle "PageSchema" ∈ (expression intertwined [] 0 "PageSchema".toList).events ∧
    ∀ d ∈ diagnosticsOf (expression intertwined [] 0 "PageSchema".toList).events,
      d.kind ≠ .depthExceeded :=
  ⟨by decide +kernel, expression_of_room intertwined [] 0 "PageSchema".toList (by decide)⟩

end SlideContract.Compile
