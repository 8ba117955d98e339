import SlideContract.Layout.Compile
import SlideContract.Proofs.Compile.Reading
import SlideContract.Proofs.Declaration.Chain
import SlideContract.Proofs.Document.Sound

/-!
# Layouts of written trees

A source that declares a written tree as its only schema is compiled to the document of this tree.
Strings may hold brackets, commas, comment marks, calls or whole declarations: none of them is taken
for a part of the source.

* `parts_of_writes`, `table_of_writes`: such a source declares a chain of which nothing is lost;
* `compile_printed`: the answer to it.
-/

namespace SlideContract.Layout
open Compile Declaration Scan Text

/-- The namespace and the constructor stand in front of the argument list. -/
lemma isFront_constructor {constructor : List Char} (h : IsIdentifier constructor) :
    ∀ c ∈ 'z' :: '.' :: constructor, IsFront c := by
  intro c hc
  rcases List.mem_cons.1 hc with rfl | hc
  · exact Or.inl (isNameChar_of_isNameStart (by decide))
  rcases List.mem_cons.1 hc with rfl | hc
  · exact Or.inr (Or.inl rfl)
  · exact Or.inl (h.isNameChar c hc)

/-- Calls that set bounds belong to a declaration in front of them. -/
lemma trails_of_bound {call : Call} (hname : call.name = "min" ∨ call.name = "max")
    (hcalled : call.isCalled = true) : call.trails = true := by
  unfold Call.trails
  rw [hcalled, Bool.true_and, decide_eq_true_eq]
  rcases hname with hname | hname
  · rw [hname]
    decide
  · rw [hname]
    decide

/-- The text of a written tree is a chain whose calls all belong to a declaration. -/
lemma parts_of_writes {tree : TypeTree} {calls : List Call} (h : Writes tree calls) :
    Plain {} (Chain.render calls) ∧ ∃ front args kept trailing,
      Chain.render calls = applied front args kept ∧ Parts front args kept [] trailing [] := by
  obtain ⟨hspelled, hne⟩ := spelled_of_writes h
  have hpart := isPart_render hspelled hne
  -- the first call builds the schema and every other is a bound, so all of the chain is kept and
  -- nothing is cut behind it
  obtain ⟨constructor, argument, modifiers, rfl, hmodifiers⟩ := builder_of_writes h
  have hcall : Call.Spelled ⟨constructor, some argument⟩ := hspelled _ (by simp [builder])
  have hargument := hcall.args argument rfl
  have hplain := hpart.tame.balanced.plain
  have htext : Chain.render (builder constructor argument ++ modifiers)
      = applied ('z' :: '.' :: constructor.toList) argument (Chain.renderRest modifiers) := by
    rw [show builder constructor argument ++ modifiers
        = ⟨"z", none⟩ :: ⟨constructor, some argument⟩ :: modifiers from rfl,
      Chain.render_cons, Chain.renderRest_cons, Call.render_bare, Call.render_called]
    simp [applied]
  have hspells : Chain.SpellsRest Balanced (Chain.renderRest modifiers) modifiers :=
    Chain.spellsRest_renderRest fun call hmem =>
      (hspelled call (List.mem_append_right _ hmem)).legible
  have hstops : Stops (Chain.renderRest modifiers) := by
    cases modifiers with
    | nil => exact fun c hc => absurd hc (by simp)
    | cons call more =>
      exact stops_of_getLast?
        (Chain.getLast?_renderRest (fun call hmem => (hmodifiers call hmem).2) (by simp))
        (by decide)
  refine ⟨hplain, _, _, _, modifiers, htext, ?_⟩
  exact
    { isFront := isFront_constructor hcall.name
      builds := ⟨_, rfl, rfl⟩
      commented := hargument.balanced.commented
      unended := by
        rw [stripComments_of_plain hargument.balanced.plain]
        exact unended_of_tame hargument
      spellsKept := hspells.mono fun _ hargs => hargs.commented
      spellsLost := .nil
      trails := fun call hmem => trails_of_bound (hmodifiers call hmem).1 (hmodifiers call hmem).2
      called := fun call hmem => absurd hmem List.not_mem_nil
      cut := fun call hmem => absurd hmem (by simp)
      keptClosed := hspells.getLast?_called (fun call hmem => (hmodifiers call hmem).2) hstops
      lostClosed := fun c hc => absurd hc (by simp)
      undeclared := by
        rw [List.append_nil, ← htext, stripComments_of_plain hplain]
        exact undeclared_of_tame hpart.tame }

/-- The table of a source that declares a written tree holds its text. -/
lemma table_of_writes {maxDepth : ℤ} {tree : TypeTree} {calls : List Call} {ending : List Char}
    (h : Writes tree calls) (hending : ∀ c ∈ ending, c = ';' ∨ isBlank c = true) :
    table { maxDepth := maxDepth } (opening [] ++ (Chain.render calls ++ ending))
      = { result := .ok [("Schema", Chain.render calls)], events := [.collected ["Schema"]] } := by
  obtain ⟨hplain, front, args, kept, trailing, htext, hparts⟩ := parts_of_writes h
  have hend : Balanced ending := .of_still fun c hc => by
    rcases hending c hc with rfl | hblank
    · exact ⟨rfl, by decide⟩
    · exact isStill_of_isBlank hblank
  rw [← stripComments_of_plain hend.plain] at hending
  have hname : String.ofList ([] ++ "Schema".toList) = "Schema" := String.ofList_toList
  have htable := @Parts.table_eq [] front args kept [] ending trailing [] maxDepth hparts (by simp)
    hending
  rwa [List.append_nil, ← htext, stripComments_of_plain hplain, hname] at htable

/-! ## The answer -/

/-- A written tree that fits below the ceiling is compiled back from the outermost level on. -/
lemma expression_of_writes {maxDepth : ℤ} {tree : TypeTree} {calls : List Call}
    (h : Writes tree calls) (hdepth : (depth tree : ℤ) ≤ maxDepth) :
    Compile.expression
        { table := [("Schema", Chain.render calls)], settings := { maxDepth := maxDepth } }
        ["Schema"] 0 (Chain.render calls)
      = pure tree := by
  have hlevels : levels { maxDepth := maxDepth } 0 = maxDepth.toNat + 1 := by
    have hnonneg : 0 ≤ maxDepth := by omega
    show (maxDepth + 1 - 0).toNat = maxDepth.toNat + 1
    omega
  have hdepth' : depth tree ≤ maxDepth.toNat := by omega
  have hread := @compile_of_writes []
    { table := [("Schema", Chain.render calls)], settings := { maxDepth := maxDepth } } rfl rfl
    tree calls h _ hdepth' ["Schema"] (fun call hcall => absurd hcall List.not_mem_nil)
  rw [List.append_nil] at hread
  unfold Compile.expression
  rw [hlevels, hread]

/-- A known tree that is no object without properties has a document of its own. -/
lemma documentOf_of_known {name : String} {tree : TypeTree} {document : Json}
    (hknown : tree ≠ .unknown) (hroot : ∀ required, tree ≠ .object [] required)
    (hdocument : Document.ofRoot tree = .ok document) :
    documentOf name tree = pure (document, false) := by
  unfold documentOf
  split
  · exact absurd rfl hknown
  · exact absurd rfl (hroot _)
  · rw [hdocument]
    rfl

/-- A source whose only declaration has a document of its own is answered with it. -/
lemma compile_single {maxDepth : ℤ} {source text : List Char} {tree : TypeTree} {document : Json}
    (htable : table { maxDepth := maxDepth } source
      = { result := .ok [("Schema", text)], events := [.collected ["Schema"]] })
    (hexpression : Compile.expression
      { table := [("Schema", text)], settings := { maxDepth := maxDepth } } ["Schema"] 0 text
        = pure tree)
    (hdocument : documentOf "Schema" tree = pure (document, false)) :
    compile { maxDepth := maxDepth } source
      = { document, entryName := some "Schema", declarations := ["Schema"], usedFallback := false
          events := [.collected ["Schema"], .entering "Schema"] } := by
  have hpoint := @entry?_single { maxDepth := maxDepth } "Schema" List.mem_cons_self text source
  have hentry : entryDocument { maxDepth := maxDepth } [("Schema", text)] ⟨"Schema", text⟩
      = { result := .ok (document, false), events := [.entering "Schema"] } := by
    unfold entryDocument
    rw [hexpression, Run.pure_bind, hdocument]
    rfl
  unfold compile
  rw [htable]
  unfold answer
  simp only [hpoint, Run.result_pure, Run.events_pure, hentry]
  rfl

/-- Compiling undoes printing: the document is that of the tree, and nothing is degraded. -/
theorem compile_printed {maxDepth : ℤ} {tree : TypeTree} (hprintable : Printable tree)
    (hroot : ∀ required, tree ≠ .object [] required) (hdepth : (depth tree : ℤ) ≤ maxDepth) :
    (∃ calls, Writes tree calls) ∧
      ∀ calls, Writes tree calls → ∀ ending, (∀ c ∈ ending, c = ';' ∨ isBlank c = true) →
        let compiled := compile { maxDepth := maxDepth }
          ("const Schema = ".toList ++ (Chain.render calls ++ ending))
        Document.ofRoot tree = .ok compiled.document ∧ compiled.usedFallback = false ∧
          compiled.entryName = some "Schema" ∧ compiled.declarations = ["Schema"] ∧
          compiled.diagnostics = [] := by
  refine ⟨exists_writes hprintable, ?_⟩
  intro calls hwrites ending hending compiled
  have hexpression := expression_of_writes hwrites hdepth
  have hsound : tree.Sound := TypeTree.sound_of_compile (congrArg Run.result hexpression)
  have hknown : tree ≠ .unknown := by
    rintro rfl
    cases hwrites
  obtain ⟨document, hdocument, -⟩ := Document.usable_of_ofRoot hsound
  have hcompiled : compiled = _ := compile_single (table_of_writes hwrites hending) hexpression
    (documentOf_of_known hknown hroot hdocument)
  rw [hcompiled]
  exact ⟨hdocument, rfl, rfl, rfl, rfl⟩

/-- A list of at most two strings that look like source. -/
theorem compile_printed_list :
    ∃ calls, Writes (.object [("a b", .array (some (.enum ["const", "\x7d, \x7b"])) (limits none (some 2)))]
        ["a b"]) calls ∧
      (compile { maxDepth := 2 } ("const Schema = ".toList ++ (Chain.render calls ++ [';']))).diagnostics
        = [] := by
  have hlow : IsSize none := fun i hi => absurd hi (by simp)
  have hhigh : IsSize (some 2) := by
    intro i hi
    rw [← Option.some.inj (show some 2 = some i from hi)]
    exact ⟨by decide, by unfold Readable; decide⟩
  have hitems : Printable (.enum ["const", "\x7d, \x7b"]) := .enum _ (by decide) (by decide)
  have hkey : WritesKey "a b".toList ('\x27' :: ("a b".toList ++ ['\x27'])) :=
    .quoted '\x27' (Or.inl rfl) (List.all_iff_forall_prop.1 (by decide))
  have hprintable : Printable
      (.object [("a b", .array (some (.enum ["const", "\x7d, \x7b"])) (limits none (some 2)))] ["a b"]) := by
    refine .object _ _ (by decide) (by simp) (by decide) ?_ ?_
    · intro entry hentry
      rw [List.mem_singleton.1 hentry]
      exact ⟨_, hkey⟩
    · intro entry hentry
      rw [List.mem_singleton.1 hentry]
      exact .array _ _ _ hlow hhigh hitems
  obtain ⟨⟨calls, hcalls⟩, hall⟩ := @compile_printed 2 _ hprintable (by simp) (by decide)
  exact ⟨calls, hcalls, (hall calls hcalls [';'] (by simp)).2.2.2.2⟩

end SlideContract.Layout
