import SlideContract.Proofs.Compile.Descent
import SlideContract.Proofs.Compile.Ends
import SlideContract.Proofs.Declaration.Table
import SlideContract.Proofs.Document.Sound
import SlideContract.Proofs.Layout.Course

/-!
# Layouts without faults

A layout is answered after a fault only if a bound is written with too many digits. All that is read
on the way stands in the source, so that a source with few digits goes through every stage; nothing
else on the way can fail, since what is taken from a chain is there and compiled objects require
only what they have.

* `Compile.supplied_of_ofChain`: what is taken from the calls of a known chain is there;
* `entryDocument_ends`: an entry point with few digits is answered with a document;
* `faultless`: no fault is recorded for a source with few digits.
-/

namespace SlideContract

namespace Compile

/-- What compilation takes from the calls of a chain is there: its head, which names a declaration
if the chain is a reference, and its constructor with an argument list if not. -/
structure Supplied (ctx : Context) (calls : List Call) : Prop where
  head : calls ≠ []
  declared : Kind.ofChain ctx.table ctx.settings calls = .reference →
    ∃ text, Entries.get? (calls.headD default).name ctx.table = some text
  constructor : Kind.ofChain ctx.table ctx.settings calls ≠ .reference →
    ∃ constructor args, calls[1]? = some constructor ∧ constructor.args = some args

/-- A constructor that makes a kind is called. -/
lemma isCalled_of_ofChain {ctx : Context} {head constructor : Call} {modifiers : List Call}
    (hreference : Kind.ofChain ctx.table ctx.settings (head :: constructor :: modifiers)
      ≠ .reference)
    (hknown : Kind.ofChain ctx.table ctx.settings (head :: constructor :: modifiers) ≠ .unknown) :
    constructor.isCalled = true := by
  simp only [Kind.ofChain] at hreference hknown
  split at hknown
  · rename_i hhead
    rw [if_pos hhead] at hreference
    exact absurd rfl hreference
  · split at hknown
    · by_contra hcalled
      rw [if_neg hcalled] at hknown
      exact absurd rfl hknown
    · exact absurd rfl hknown

/-- What is taken from the calls of a chain of a known kind is there. -/
lemma supplied_of_ofChain {ctx : Context} {calls : List Call}
    (hknown : Kind.ofChain ctx.table ctx.settings calls ≠ .unknown) : Supplied ctx calls where
  head := by
    rintro rfl
    exact absurd rfl hknown
  declared hreference := Option.isSome_iff_exists.1 (has_of_reference hreference)
  constructor hreference := by
    obtain ⟨head, constructor, modifiers, rfl, -⟩ := headLength_of_ofChain rfl hreference hknown
    have hcalled := isCalled_of_ofChain hreference hknown
    obtain ⟨args, hargs⟩ := Option.isSome_iff_exists.1 hcalled
    exact ⟨constructor, args, rfl, hargs⟩

end Compile

namespace Layout
open Compile Text

variable {settings : Settings} {source : List Char} {table : Table} {entry : Declaration.Entry}

/-- A sound tree is answered with a document, be it its own or the fallback. -/
lemma documentOf_ends {tree : TypeTree} (h : tree.Sound) (name : String) :
    (documentOf name tree).Ends := by
  unfold documentOf
  split
  · exact ⟨_, rfl⟩
  · exact ⟨_, rfl⟩
  · obtain ⟨document, hdocument, -⟩ := Document.usable_of_ofRoot h
    rw [hdocument]
    exact ⟨_, rfl⟩

/-- Collecting declarations ends with a table. -/
lemma table_ends (settings : Settings) (source : List Char) :
    (Declaration.table settings source).Ends := by
  have hcollect : ∀ table head, (Declaration.collect settings source table head).Ends := by
    intro table head
    unfold Declaration.collect
    simp only
    split
    · exact ⟨_, rfl⟩
    · split
      · exact ⟨_, rfl⟩
      · exact ⟨_, rfl⟩
  unfold Declaration.table
  refine Run.stepwise_ends.bind ?_ fun _ _ => ⟨_, rfl⟩
  exact Run.stepwise_ends.foldlM (fun table head _ => hcollect table head) _

/-- Choosing the entry point ends. -/
lemma entry_ends (settings : Settings) (source : List Char) (table : Table) :
    (Declaration.entry? settings source table).Ends := by
  unfold Declaration.entry?
  split
  · exact ⟨_, rfl⟩
  · split
    · exact ⟨_, rfl⟩
    · exact ⟨_, rfl⟩

/-- The entry point of a source with few digits is compiled to a tree. -/
lemma expression_ends (hfew : FewDigits source)
    (htable : (Declaration.table settings source).result = .ok table)
    (hentry : (Declaration.entry? settings source table).result = .ok (some entry)) :
    (expression { table, settings } [entry.name] 0 entry.text).Ends := by
  refine compile_ends (fun declaration hmem => ?_) ?_
  · exact hfew.sublist (Declaration.sublist_of_mem_table htable hmem)
  · exact hfew.sublist (Declaration.sublist_entry htable hentry)

/-- The entry point of a source with few digits is answered with a document. -/
lemma entryDocument_ends (hfew : FewDigits source)
    (htable : (Declaration.table settings source).result = .ok table)
    (hentry : (Declaration.entry? settings source table).result = .ok (some entry)) :
    (entryDocument settings table entry).Ends := by
  refine Run.stepwise_ends.bind (Run.emit_ends _) fun _ _ => ?_
  refine Run.stepwise_ends.bind (expression_ends hfew htable hentry) fun tree htree => ?_
  exact documentOf_ends (TypeTree.sound_of_compile htree) entry.name

/-! ## Faults -/

/-- Only a fault is recorded as an internal error. -/
lemma ended_of_kind {event : Event} {d : Diagnostic} (h : event.diagnostic? = some d)
    (hkind : d.kind = .internalError) : ∃ fault, event = .ended fault := by
  cases event with
  | ended fault => exact ⟨fault, rfl⟩
  | _ => cases h <;> exact absurd hkind (by simp)

/-- A layout whose entry point is compiled to a document records no fault. -/
lemma Entered.not_ended {answered : Json × Bool} (h : Entered settings source table entry answered)
    (fault : Fault) : Event.ended fault ∉ (compile settings source).events := by
  intro hmem
  -- no stage on the way leaves the event of a fault
  rcases h.mem_events_cases hmem with hother | hentering | hexpression | ⟨tree, -, hdocument⟩
  · exact absurd hother (by simp [Event.stage])
  · exact absurd hentering (by simp)
  · exact absurd ((inStage_expression _ _ _ _).stage_eq hexpression) (by simp [Event.stage])
  · unfold documentOf at hdocument
    split at hdocument
    · exact absurd (List.mem_singleton.1 hdocument) (by simp)
    · exact absurd (List.mem_singleton.1 hdocument) (by simp)
    · exact absurd hdocument List.not_mem_nil

/-- A layout without an entry point records no fault. -/
lemma not_ended_of_none (htable : (Declaration.table settings source).result = .ok table)
    (hentry : (Declaration.entry? settings source table).result = .ok none) (fault : Fault) :
    Event.ended fault ∉ (compile settings source).events := by
  unfold compile answer
  simp only [htable, hentry]
  intro hmem
  rcases List.mem_append.1 hmem with hcollect | hmem
  · have hstage := (Declaration.inStage_table settings source).stage_eq hcollect
    exact absurd hstage (by simp [Event.stage])
  rcases List.mem_append.1 hmem with hchoose | hmem
  · have hstage := (Declaration.inStage_entry settings source table).stage_eq hchoose
    exact absurd hstage (by simp [Event.stage])
  · exact absurd (List.mem_singleton.1 hmem) (by simp)

/-- Nothing on the way from a source to its document fails if the source has no more decimal digits
than are read of an integer: its declarations are collected, the choice of the entry point ends,
this is compiled to a tree, and the tree has a document, so that no fault is recorded. Whatever
expression is compiled, at every depth of its tree objects require only properties they have, so
that the tree has a document; and what compilation takes from a chain of a known kind is there. -/
theorem faultless :
    (∀ (settings : Settings) (source : List Char), source.countP isDigit ≤ digitLimit →
      ∃ table chosen, (Declaration.table settings source).result = .ok table ∧
        (Declaration.entry? settings source table).result = .ok chosen ∧
        (∀ entry ∈ chosen, ∃ tree,
          (expression { table, settings } [entry.name] 0 entry.text).result = .ok tree ∧
          ∃ answered, (entryDocument settings table entry).result = .ok answered) ∧
        ∀ d ∈ (compile settings source).diagnostics, d.kind ≠ .internalError) ∧
    (∀ (ctx : Context) (visiting : List String) (depth : Int) (text : List Char)
      (tree : TypeTree), (expression ctx visiting depth text).result = .ok tree →
      tree.Sound ∧ ∃ document, Document.ofRoot tree = .ok document) ∧
    ∀ (ctx : Context) (calls : List Call),
      Kind.ofChain ctx.table ctx.settings calls ≠ .unknown → Supplied ctx calls := by
  refine ⟨fun settings source hfew => ?_, fun ctx visiting depth text tree htree => ?_,
    fun ctx calls => supplied_of_ofChain⟩
  · obtain ⟨table, htable⟩ := table_ends settings source
    obtain ⟨chosen, hchosen⟩ := entry_ends settings source table
    refine ⟨table, chosen, htable, hchosen, fun entry hentry => ?_, fun d hd hkind => ?_⟩
    · rw [Option.mem_def.1 hentry] at hchosen
      obtain ⟨tree, htree⟩ := expression_ends hfew htable hchosen
      exact ⟨tree, htree, entryDocument_ends hfew htable hchosen⟩
    · -- a fault would be the event that ended one of the steps, and none of them ended by one
      obtain ⟨event, hevent, hdiagnostic⟩ := List.mem_filterMap.1 hd
      obtain ⟨fault, rfl⟩ := ended_of_kind hdiagnostic hkind
      cases chosen with
      | none => exact not_ended_of_none htable hchosen fault hevent
      | some entry =>
        obtain ⟨answered, hanswered⟩ := entryDocument_ends hfew htable hchosen
        exact Entered.not_ended ⟨htable, hchosen, hanswered⟩ fault hevent
  · have hsound := TypeTree.sound_of_compile htree
    obtain ⟨document, hdocument, -⟩ := Document.usable_of_ofRoot hsound
    exact ⟨hsound, document, hdocument⟩

/-- A layout whose bound is written with a comment and a default between its digits. -/
def interrupted : List Char :=
  "const CardSchema = z.object(\x7btitle: z.string().max(1/* */2.default(\"\")0)\x7d);".toList

/-- Its three digits are few, and it goes through without a fault; an array has a document whose
items are known, and what is taken from its chain is there. -/
theorem faultless_interrupted :
    interrupted.countP isDigit ≤ digitLimit ∧
    (∀ d ∈ (compile {} interrupted).diagnostics, d.kind ≠ .internalError) ∧
    (∃ tree, (expression {} [] 0 "z.array(z.string())".toList).result = .ok tree ∧
      tree.Sound ∧ ∃ document, Document.ofRoot tree = .ok document) ∧
    Supplied {} [⟨"z", none⟩, ⟨"boolean", some []⟩] := by
  have hfew : interrupted.countP isDigit ≤ digitLimit := by decide +kernel
  obtain ⟨hsources, htrees, hchains⟩ := faultless
  obtain ⟨-, -, -, -, -, hclean⟩ := hsources {} interrupted hfew
  refine ⟨hfew, hclean, ?_, hchains {} _ (by decide)⟩
  have hends : (expression {} [] 0 "z.array(z.string())".toList).result.toOption.isSome = true := by
    decide +kernel
  cases htree : (expression {} [] 0 "z.array(z.string())".toList).result with
  | error fault =>
    rw [htree] at hends
    exact absurd hends Bool.false_ne_true
  | ok tree => exact ⟨tree, rfl, htrees {} [] 0 _ tree htree⟩

end Layout
end SlideContract
