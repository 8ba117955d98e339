import SlideContract.Compile.Expression
import SlideContract.Proofs.Chain.Render
import SlideContract.Proofs.Compile.Numeral

/-!
# Writing type trees

A type tree is written as a builder chain: a constructor with its argument and the bounds that are
present behind it. Strings stand in any of the three quotes, keys stand bare or in quotes, and a
field that is not required is marked as optional. Blanks may stand behind commas and colons.

* `Writes`: the calls that write a tree;
* `exists_writes`: every printable tree is written by some calls;
* `spelled_of_writes`: the calls are spelled, so that their text is a tame chain.
-/

namespace SlideContract.Compile
open Scan Text Chain

/-! ## The parts of a chain -/

/-- The bounds that are given by integers. -/
def limits (low high : Option ℤ) : Bounds := { min := low.map .int, max := high.map .int }

/-- The calls that set the bounds that are present. -/
def limitCalls (low high : Option ℤ) : List Call :=
  (low.map fun i => ⟨"min", some (numeral i)⟩).toList ++
    (high.map fun i => ⟨"max", some (numeral i)⟩).toList

/-- A bound, if present, is a number that is read. -/
def IsLimit (bound : Option ℤ) : Prop := ∀ i ∈ bound, Readable i

/-- A bound, if present, is a size that is read. -/
def IsSize (bound : Option ℤ) : Prop := ∀ i ∈ bound, 0 ≤ i ∧ Readable i

/-- A constructor is called on the builder namespace. -/
def builder (constructor : String) (argument : List Char) : List Call :=
  [⟨"z", none⟩, ⟨constructor, some argument⟩]

/-- The call that marks a field as optional. -/
def optionalCall : Call := ⟨"optional", some []⟩

/-- The value can be written between the quotes: a line break stands only between the quotes that
may span lines. -/
def Quotes (quote : Char) (value : String) : Prop :=
  isQuote quote = true ∧ ('\n' ∈ value.toList → quote = spanningQuote)

/-- The text is a key of the name: the bare name, or the name between quotes that need no
escapes. -/
inductive WritesKey (name : List Char) : List Char → Prop
  | bare (h : IsIdentifier name) : WritesKey name name
  | quoted (quote : Char) (hquote : quote = '\x27' ∨ quote = '\x22')
      (hname : ∀ c ∈ name, c ≠ '\\' ∧ c ≠ '\n' ∧ c ≠ quote) :
      WritesKey name (quote :: (name ++ [quote]))

/-- A field of an object as it is written: its name and type, its key, and the calls of its
expression. -/
structure Member where
  name : String
  tree : TypeTree
  key : List Char
  calls : List Call

/-- The calls of the expression of a field, which are marked if the field is not required. -/
def Member.expression (required : List String) (m : Member) : List Call :=
  m.calls ++ if m.name ∈ required then [] else [optionalCall]

/-- The text of a field with blanks behind its colon. -/
def Member.text (gap : List Char) (required : List String) (m : Member) : List Char :=
  m.key ++ ':' :: (gap ++ render (m.expression required))

/-- The text of the values of an enumeration. -/
def itemsText (gap : List Char) (items : List (Char × String)) : List Char :=
  '[' :: (List.intercalate (',' :: gap) (items.map fun item => literal item.1 item.2.toList) ++ [']'])

/-- The text of the fields of an object. -/
def membersText (gap : List Char) (required : List String) (members : List Member) : List Char :=
  '\x7b' :: (List.intercalate (',' :: gap) (members.map (·.text gap required)) ++ ['\x7d'])

/-! ## Trees -/

/-- The calls write the tree. -/
inductive Writes : TypeTree → List Call → Prop
  | string (low high : Option ℤ) (hlow : IsSize low) (hhigh : IsSize high) :
      Writes (.string (limits low high)) (builder "string" [] ++ limitCalls low high)
  | number (low high : Option ℤ) (hlow : IsLimit low) (hhigh : IsLimit high) :
      Writes (.number (limits low high)) (builder "number" [] ++ limitCalls low high)
  | boolean : Writes .boolean (builder "boolean" [])
  | enum (items : List (Char × String)) (gap : List Char) (hne : items ≠ [])
      (hitems : ∀ item ∈ items, Quotes item.1 item.2 ∧ item.2 ≠ "") (hgap : Blanks gap) :
      Writes (.enum (items.map (·.2))) (builder "enum" (itemsText gap items))
  | array (items : TypeTree) (calls : List Call) (low high : Option ℤ) (hlow : IsSize low)
      (hhigh : IsSize high) (hitems : Writes items calls) :
      Writes (.array (some items) (limits low high))
        (builder "array" (render calls) ++ limitCalls low high)
  | object (members : List Member) (required : List String) (gap : List Char)
      (hnames : (members.map (·.name)).Nodup) (hascending : required.Pairwise (· < ·))
      (hrequired : ∀ name ∈ required, name ∈ members.map (·.name)) (hgap : Blanks gap)
      (hkeys : ∀ m ∈ members, WritesKey m.name.toList m.key)
      (htrees : ∀ m ∈ members, Writes m.tree m.calls) :
      Writes (.object (members.map fun m => (m.name, m.tree)) required)
        (builder "object" (membersText gap required members))

/-- The tree is one that can be written: its bounds are integers that are read, its enumerations
are not empty, and its properties have distinct names that can be keys. -/
inductive Printable : TypeTree → Prop
  | string (low high : Option ℤ) (hlow : IsSize low) (hhigh : IsSize high) :
      Printable (.string (limits low high))
  | number (low high : Option ℤ) (hlow : IsLimit low) (hhigh : IsLimit high) :
      Printable (.number (limits low high))
  | boolean : Printable .boolean
  | enum (values : List String) (hne : values ≠ []) (hvalues : "" ∉ values) :
      Printable (.enum values)
  | array (items : TypeTree) (low high : Option ℤ) (hlow : IsSize low) (hhigh : IsSize high)
      (hitems : Printable items) : Printable (.array (some items) (limits low high))
  | object (properties : List (String × TypeTree)) (required : List String)
      (hnames : (Entries.names properties).Nodup) (hascending : required.Pairwise (· < ·))
      (hrequired : ∀ name ∈ required, name ∈ Entries.names properties)
      (hkeys : ∀ entry ∈ properties, ∃ key, WritesKey entry.1.toList key)
      (htrees : ∀ entry ∈ properties, Printable entry.2) : Printable (.object properties required)

lemma exists_members {properties : List (String × TypeTree)}
    (hkeys : ∀ entry ∈ properties, ∃ key, WritesKey entry.1.toList key)
    (htrees : ∀ entry ∈ properties, ∃ calls, Writes entry.2 calls) :
    ∃ members : List Member, members.map (fun m => (m.name, m.tree)) = properties ∧
      ∀ m ∈ members, WritesKey m.name.toList m.key ∧ Writes m.tree m.calls := by
  induction properties with
  | nil => exact ⟨[], rfl, fun m hm => absurd hm List.not_mem_nil⟩
  | cons entry rest ih =>
    obtain ⟨members, rfl, hmembers⟩ := ih (fun e he => hkeys e (List.mem_cons_of_mem _ he))
      (fun e he => htrees e (List.mem_cons_of_mem _ he))
    obtain ⟨key, hkey⟩ := hkeys entry List.mem_cons_self
    obtain ⟨calls, hcalls⟩ := htrees entry List.mem_cons_self
    refine ⟨⟨entry.1, entry.2, key, calls⟩ :: members, rfl, ?_⟩
    intro m hm
    rcases List.mem_cons.1 hm with rfl | hm
    · exact ⟨hkey, hcalls⟩
    · exact hmembers m hm

/-- Every printable tree is written by some calls. -/
theorem exists_writes {tree : TypeTree} (h : Printable tree) : ∃ calls, Writes tree calls := by
  induction h with
  | string low high hlow hhigh => exact ⟨_, .string low high hlow hhigh⟩
  | number low high hlow hhigh => exact ⟨_, .number low high hlow hhigh⟩
  | boolean => exact ⟨_, .boolean⟩
  | enum values hne hvalues =>
    have hmap : (values.map fun value => (spanningQuote, value)).map (·.2) = values := by
      rw [List.map_map]
      exact List.map_id values
    have hitems : ∀ item ∈ values.map fun value => (spanningQuote, value),
        Quotes item.1 item.2 ∧ item.2 ≠ "" := by
      intro item hitem
      obtain ⟨value, hvalue, rfl⟩ := List.mem_map.1 hitem
      refine ⟨⟨rfl, fun _ => rfl⟩, ?_⟩
      rintro rfl
      exact hvalues hvalue
    -- every value can stand between the quotes that span any text
    have hwrites := Writes.enum _ [] (by simpa using hne) hitems blanks_nil
    rw [hmap] at hwrites
    exact ⟨_, hwrites⟩
  | array items low high hlow hhigh _ ih =>
    obtain ⟨calls, hcalls⟩ := ih
    exact ⟨_, .array items calls low high hlow hhigh hcalls⟩
  | object properties required hnames hascending hrequired hkeys _ ih =>
    obtain ⟨members, rfl, hmembers⟩ := exists_members hkeys ih
    have hmap : Entries.names (members.map fun m => (m.name, m.tree)) = members.map (·.name) := by
      unfold Entries.names
      rw [List.map_map]
      rfl
    rw [hmap] at hnames hrequired
    exact ⟨_, .object members required [] hnames hascending hrequired blanks_nil
      (fun m hm => (hmembers m hm).1) (fun m hm => (hmembers m hm).2)⟩

/-! ## Spelling -/

lemma spelled_namespace : Call.Spelled ⟨"z", none⟩ where
  name := isIdentifier_of_letters (by decide)
  noDefault := by decide
  args _ h := absurd h (by simp)

lemma spelled_called {name : String} {args : List Char} (hname : IsIdentifier name.toList)
    (hdefault : name.toList.head? ≠ some 'd') (hargs : Tame args) :
    Call.Spelled ⟨name, some args⟩ where
  name := hname
  noDefault := hdefault
  args a h := by
    rw [← Option.some.inj (show some args = some a from h)]
    exact hargs

lemma spelled_optional : optionalCall.Spelled :=
  spelled_called (isIdentifier_of_letters (by decide)) (by decide) .nil

lemma spelled_limitCalls (low high : Option ℤ) : ∀ call ∈ limitCalls low high, call.Spelled := by
  intro call hcall
  unfold limitCalls at hcall
  rcases List.mem_append.1 hcall with hcall | hcall
  · obtain ⟨i, -, rfl⟩ := Option.map_eq_some_iff.1 (Option.mem_toList.1 hcall)
    exact spelled_called (isIdentifier_of_letters (by decide)) (by decide) (tame_numeral i).1
  · obtain ⟨i, -, rfl⟩ := Option.map_eq_some_iff.1 (Option.mem_toList.1 hcall)
    exact spelled_called (isIdentifier_of_letters (by decide)) (by decide) (tame_numeral i).1

/-- The constructors that trees are written with. -/
def constructors : List String := ["string", "number", "boolean", "enum", "array", "object"]

lemma spelled_builder {constructor : String} (h : constructor ∈ constructors) {argument : List Char}
    (hargument : Tame argument) : ∀ call ∈ builder constructor argument, call.Spelled := by
  have hname : IsIdentifier constructor.toList :=
    isIdentifier_of_letters (List.all_eq_true.1
      (show (constructors.all fun word => !word.toList.isEmpty && word.toList.all Char.isAlpha)
          = true
        by decide) constructor h)
  have hdefault : ∀ name ∈ constructors, name.toList.head? ≠ some 'd' := by decide
  intro call hcall
  rcases List.mem_cons.1 hcall with rfl | hcall
  · exact spelled_namespace
  · rw [List.mem_singleton.1 hcall]
    exact spelled_called hname (hdefault constructor h) hargument

/-- What is true of a text that stands as a part of a list. -/
structure IsPart (text : List Char) : Prop where
  tame : Tame text
  uncut : Uncut ',' text
  starts : Starts text
  stops : Stops text
  nonempty : text ≠ []

lemma isPart_enclosed {quote : Char} {body : List Char} (h : isQuote quote = true)
    (hinside : Inside quote body) : IsPart (enclosed quote body) where
  tame := .of_inside (balanced_enclosed h hinside).1 (balanced_enclosed h hinside).2
  uncut := .of_inside (balanced_enclosed h hinside).2
  starts := starts_cons (quote_chars h).2.2.2 _
  stops := stops_between (quote_chars h).2.2.2 _ _
  nonempty := List.cons_ne_nil _ _

lemma isPart_literal {quote : Char} {value : List Char} (h : isQuote quote = true)
    (hline : '\n' ∈ value → quote = spanningQuote) : IsPart (literal quote value) :=
  isPart_enclosed h (inside_escape hline)

/-! ## Keys -/

/-- The text is a key with the name: the bare name, or the name between quotes, with whatever
escapes it holds. -/
inductive IsKey (name : List Char) : List Char → Prop
  | bare (h : IsIdentifier name) : IsKey name name
  | quoted (quote : Char) (hquote : quote = '\x27' ∨ quote = '\x22') (h : Inside quote name) :
      IsKey name (enclosed quote name)

variable {name key : List Char}

lemma isQuote_of_key {quote : Char} (h : quote = '\x27' ∨ quote = '\x22') :
    isQuote quote = true := by
  rcases h with rfl | rfl <;> decide

lemma WritesKey.isKey (h : WritesKey name key) : IsKey name key := by
  cases h with
  | bare hname => exact .bare hname
  | quoted quote hquote hname =>
    exact .quoted quote hquote (inside_of_forall (fun c hc => ⟨(hname c hc).1, (hname c hc).2.2⟩)
      fun hmem => absurd rfl (hname _ hmem).2.1)

lemma IsKey.isPart (h : IsKey name key) : IsPart key := by
  cases h with
  | bare hname =>
    refine ⟨.name hname.isNameChar, .of_forall ?_, ?_, hname.stops, ?_⟩
    · rintro c hc rfl
      have hchar := hname.isNameChar _ hc
      rw [isNameChar_of_isSeparator (by decide)] at hchar
      exact absurd hchar (by decide)
    · have hstarts := hname.starts []
      rw [List.append_nil] at hstarts
      exact hstarts
    · obtain ⟨c, rest, rfl, -⟩ := hname
      exact List.cons_ne_nil _ _
  | quoted quote hquote hinside => exact isPart_enclosed (isQuote_of_key hquote) hinside

/-! ## Parts -/

/-- A bracket around a tame text. -/
lemma isPart_bracket {opener closer : Char} {text : List Char} (h : closer? opener = some closer)
    (htext : Tame text) : IsPart (opener :: (text ++ [closer])) := by
  have hchars : isBlank opener = false ∧ isBlank closer = false ∧ closer ≠ ',' := by
    unfold closer? at h
    split at h <;> first | (cases h; decide) | exact absurd h (by simp)
  exact ⟨.bracket h htext, uncut_bracket h htext.balanced hchars.2.2, starts_cons hchars.1 _,
    stops_between hchars.2.1 _ _, List.cons_ne_nil _ _⟩

/-- A single part is the only one. -/
lemma firstArgument_part {text : List Char} (h : IsPart text) :
    firstArgument (some text) = text := by
  unfold firstArgument
  rw [Option.getD_some,
    splitTopLevel_single separates_comma h.tame.balanced h.uncut h.starts h.stops
    h.nonempty]
  rfl

lemma firstArgument_nil : firstArgument (some []) = [] := by
  unfold firstArgument
  rw [Option.getD_some, splitTopLevel_nil separates_comma]
  rfl

lemma isPart_numeral (i : ℤ) : IsPart (numeral i) where
  tame := (tame_numeral i).1
  uncut := (tame_numeral i).2
  starts := (ends_numeral i).1
  stops := (ends_numeral i).2.1
  nonempty := (ends_numeral i).2.2

lemma isPart_render {calls : List Call} (h : ∀ call ∈ calls, call.Spelled) (hne : calls ≠ []) :
    IsPart (render calls) := by
  have hlegible : ∀ call ∈ calls, call.Legible Balanced := fun call hcall => (h call hcall).legible
  refine ⟨tame_render h, (spells_render hlegible hne).uncut, starts_render hlegible,
    stops_render hlegible hne, ?_⟩
  cases calls with
  | nil => exact absurd rfl hne
  | cons call rest =>
    obtain ⟨c, cs, hname, -⟩ := (h call List.mem_cons_self).name
    rw [render_cons]
    unfold Call.render
    split <;> simp [hname]

lemma spelled_expression {required : List String} {m : Member}
    (hcalls : ∀ call ∈ m.calls, call.Spelled) : ∀ call ∈ m.expression required, call.Spelled := by
  intro call hcall
  unfold Member.expression at hcall
  rcases List.mem_append.1 hcall with hcall | hcall
  · exact hcalls call hcall
  · split at hcall
    · exact absurd hcall List.not_mem_nil
    · rw [List.mem_singleton.1 hcall]
      exact spelled_optional

lemma isPart_expression {required : List String} {m : Member}
    (hcalls : ∀ call ∈ m.calls, call.Spelled) (hne : m.calls ≠ []) :
    IsPart (render (m.expression required)) :=
  isPart_render (spelled_expression hcalls) (by simp [Member.expression, hne])

lemma isPart_member {gap : List Char} {required : List String} {m : Member} (hgap : Blanks gap)
    (hkey : WritesKey m.name.toList m.key) (hcalls : ∀ call ∈ m.calls, call.Spelled)
    (hne : m.calls ≠ []) : IsPart (m.text gap required) := by
  have hexpression := @isPart_expression required m hcalls hne
  have hkey := hkey.isKey.isPart
  -- between key and expression stand a colon and blanks, which neither quote nor separate
  have htail : Tame (':' :: (gap ++ render (m.expression required))) :=
    .cons (by unfold Idle; decide) rfl (by decide) (.blanks hgap hexpression.tame)
  have hgap' : Uncut ',' (':' :: gap) := by
    apply Uncut.of_forall
    rintro c hc rfl
    rcases List.mem_cons.1 hc with hc | hc
    · exact absurd hc (by decide)
    · exact absurd (hgap _ hc) (by decide)
  have hbalanced : Balanced (':' :: gap) := by
    rw [← List.append_nil gap]
    exact .cons rfl (by decide) (.blanks hgap .nil)
  refine ⟨hkey.tame.append htail ?_, hkey.uncut.append hkey.tame.balanced ?_,
    hkey.starts.append hkey.nonempty _, ?_, ?_⟩
  · exact stopper_of_isSeparator (by decide) (by decide) _
  · rw [← List.cons_append]
    exact hgap'.append hbalanced hexpression.uncut
  · unfold Member.text
    rw [← List.cons_append, ← List.append_assoc]
    exact hexpression.stops.append hexpression.nonempty _
  · unfold Member.text
    simp

lemma tame_itemsText {gap : List Char} {items : List (Char × String)} (hgap : Blanks gap)
    (hitems : ∀ item ∈ items, Quotes item.1 item.2) : Tame (itemsText gap items) := by
  refine .bracket rfl (.listed hgap ?_)
  intro part hpart
  obtain ⟨item, hitem, rfl⟩ := List.mem_map.1 hpart
  exact (isPart_literal (hitems item hitem).1 (hitems item hitem).2).tame

lemma tame_membersText {gap : List Char} {required : List String} {members : List Member}
    (hgap : Blanks gap) (hkeys : ∀ m ∈ members, WritesKey m.name.toList m.key)
    (hcalls : ∀ m ∈ members, (∀ call ∈ m.calls, call.Spelled) ∧ m.calls ≠ []) :
    Tame (membersText gap required members) := by
  refine .bracket rfl (.listed hgap ?_)
  intro part hpart
  obtain ⟨m, hm, rfl⟩ := List.mem_map.1 hpart
  exact (isPart_member hgap (hkeys m hm) (hcalls m hm).1 (hcalls m hm).2).tame

/-- The calls that write a tree are spelled, and there are some. -/
theorem spelled_of_writes {tree : TypeTree} {calls : List Call} (h : Writes tree calls) :
    (∀ call ∈ calls, call.Spelled) ∧ calls ≠ [] := by
  have happend : ∀ {constructor : String} {argument : List Char} (low high : Option ℤ),
      constructor ∈ constructors → Tame argument →
        (∀ call ∈ builder constructor argument ++ limitCalls low high, call.Spelled) ∧
          builder constructor argument ++ limitCalls low high ≠ [] := by
    intro constructor argument low high hconstructor hargument
    refine ⟨?_, by simp [builder]⟩
    intro call hcall
    rcases List.mem_append.1 hcall with hcall | hcall
    · exact spelled_builder hconstructor hargument call hcall
    · exact spelled_limitCalls low high call hcall
  -- every tree is written by a constructor and bounds, so only the argument of the constructor
  -- differs
  induction h with
  | string low high => exact happend low high (by decide) .nil
  | number low high => exact happend low high (by decide) .nil
  | boolean => exact happend none none (by decide) .nil
  | enum items gap _ hitems hgap =>
    exact happend none none (by decide)
      (tame_itemsText hgap fun item hitem => (hitems item hitem).1)
  | array items calls low high _ _ _ ih => exact happend low high (by decide) (tame_render ih.1)
  | object members required gap _ _ _ hgap hkeys _ ih =>
    exact happend none none (by decide) (tame_membersText hgap hkeys ih)

lemma bound_of_mem_limitCalls {low high : Option ℤ} {call : Call} (h : call ∈ limitCalls low high) :
    (call.name = "min" ∨ call.name = "max") ∧ call.isCalled = true := by
  unfold limitCalls at h
  rcases List.mem_append.1 h with h | h
  · obtain ⟨i, -, rfl⟩ := Option.map_eq_some_iff.1 (Option.mem_toList.1 h)
    exact ⟨Or.inl rfl, rfl⟩
  · obtain ⟨i, -, rfl⟩ := Option.map_eq_some_iff.1 (Option.mem_toList.1 h)
    exact ⟨Or.inr rfl, rfl⟩

/-- The calls that write a tree are a builder with bounds behind it. -/
lemma builder_of_writes {tree : TypeTree} {calls : List Call} (h : Writes tree calls) :
    ∃ constructor argument modifiers, calls = builder constructor argument ++ modifiers ∧
      ∀ call ∈ modifiers, (call.name = "min" ∨ call.name = "max") ∧ call.isCalled = true := by
  cases h with
  | string low high => exact ⟨_, _, _, rfl, fun _ => bound_of_mem_limitCalls⟩
  | number low high => exact ⟨_, _, _, rfl, fun _ => bound_of_mem_limitCalls⟩
  | boolean => exact ⟨_, _, [], (List.append_nil _).symm, fun _ h => absurd h List.not_mem_nil⟩
  | enum items gap =>
    exact ⟨_, _, [], (List.append_nil _).symm, fun _ h => absurd h List.not_mem_nil⟩
  | array items calls low high => exact ⟨_, _, _, rfl, fun _ => bound_of_mem_limitCalls⟩
  | object members required gap =>
    exact ⟨_, _, [], (List.append_nil _).symm, fun _ h => absurd h List.not_mem_nil⟩

end SlideContract.Compile
