import Mathlib.Data.Int.Notation
import SlideContract.Proofs.Run
import SlideContract.Proofs.Text.Name
import SlideContract.Settings.Reader

/-!
# Accepted settings

Each setting is read by itself: what its member holds has to be of its type and to meet its
condition, as the defaults do. So settings are accepted exactly if the members say them and they
meet all conditions. Names have to be identifiers, but a line break behind one is let through.

* `member_eq_ok_iff`: one setting;
* `isIdentifier_iff`: the texts that pass for names;
* `ofJson_eq_ok_iff`: the values that are accepted, and the settings they are accepted as;
* `ofJson_of_identifiers`: settings whose names are identifiers are accepted;
* `identifiers_iff_of_ofJson`: when the names of accepted settings are identifiers;
* `ofJson_toJson_iff`: which settings come back from JSON.
-/

namespace SlideContract.Settings
open Text

variable {α : Type} {members : List (String × Json)} {name text : String} {input value : Json}
  {s : Settings}

/-! ## One setting -/

/-- What the member of a setting says, which is the default if it is not there. -/
def Says (members : List (String × Json)) (name : String) (default : α)
    (Means : Json → α → Prop) (a : α) : Prop :=
  match Entries.get? name members with
  | none => a = default
  | some value => Means value a

/-- A setting is read if its member says it and it meets the condition of its reader. -/
lemma member_eq_ok_iff {default a : α} {read : Json → Reading α} {Means : Json → α → Prop}
    {Good : α → Prop} (hread : ∀ input a, read input = .ok a ↔ Means input a ∧ Good a)
    (hdefault : Good default) :
    member members name default read = .ok a ↔ Says members name default Means a ∧ Good a := by
  unfold member Says
  cases Entries.get? name members with
  | none =>
    constructor
    · intro h
      rw [← Except.ok.inj h]
      exact ⟨rfl, hdefault⟩
    · rintro ⟨rfl, -⟩
      rfl
  | some value => exact hread value a

lemma readText_eq_ok_iff : readText name input = .ok text ↔ input = .str text := by
  cases input with
  | str s => exact ⟨fun h => congrArg Json.str (Except.ok.inj h), fun h => by cases h; rfl⟩
  | _ => exact ⟨nofun, nofun⟩

lemma readIdentifier_eq_ok_iff :
    readIdentifier name input = .ok text ↔ input = .str text ∧ isIdentifier text.toList = true := by
  unfold readIdentifier
  rw [Except.bind_eq_ok]
  constructor
  · rintro ⟨s, hs, h⟩
    split at h
    · rename_i hname
      rw [← Except.ok.inj h]
      exact ⟨readText_eq_ok_iff.1 hs, hname⟩
    · cases h
  · rintro ⟨htext, hname⟩
    refine ⟨text, readText_eq_ok_iff.2 htext, ?_⟩
    rw [if_pos hname]
    rfl

lemma texts_map_str (names : List String) : texts (names.map .str) = names := by
  unfold texts
  rw [List.filterMap_map]
  exact List.filterMap_some

/-- A list has no faults if its items are strings, which are its texts then. -/
lemma itemFaults_eq_nil_iff {items : List Json} :
    itemFaults name items = [] ↔ items = (texts items).map .str := by
  unfold itemFaults
  rw [List.filterMap_eq_nil_iff]
  constructor
  · intro h
    -- an item that is no string is a fault at its own place
    have hstr : ∀ item ∈ items, ∃ s, item = .str s := by
      intro item hitem
      obtain ⟨i, hi, rfl⟩ := List.mem_iff_getElem.1 hitem
      have hnone := h (items[i], i) (List.mem_zipIdx_iff_getElem?.2 (List.getElem?_eq_getElem hi))
      dsimp only at hnone
      split at hnone
      · rename_i s heq
        exact ⟨s, heq⟩
      · cases hnone
    clear h
    induction items with
    | nil => rfl
    | cons item rest ih =>
      obtain ⟨s, rfl⟩ := hstr item List.mem_cons_self
      exact congrArg _ (ih fun i hi => hstr i (List.mem_cons_of_mem _ hi))
  · intro h p hp
    obtain ⟨item, i⟩ := p
    have hmem := List.fst_mem_of_mem_zipIdx hp
    rw [h] at hmem
    obtain ⟨s, -, rfl⟩ := List.mem_map.1 hmem
    rfl

lemma readEntryNames_eq_ok_iff {names : List String} :
    readEntryNames name input = .ok names ↔
      input = .arr (names.map .str) ∧ names ≠ [] ∧ ∀ n ∈ names, isIdentifier n.toList = true := by
  have hnames : ∀ names : List String,
      (names.find? fun n => !isIdentifier n.toList) = none ↔
        ∀ n ∈ names, isIdentifier n.toList = true := by
    intro names
    rw [List.find?_eq_none]
    simp only [Bool.not_eq_true', Bool.not_eq_false]
  cases input with
  | arr items =>
    unfold readEntryNames
    dsimp only
    constructor
    · intro h
      split at h
      · cases h
      · rename_i hfaults
        split at h
        · cases h
        · rename_i hne
          split at h
          · cases h
          · rename_i hgood
            rw [← Except.ok.inj h]
            refine ⟨congrArg Json.arr (itemFaults_eq_nil_iff.1 (by simpa using hfaults)), ?_,
              (hnames _).1 hgood⟩
            simpa using hne
    · rintro ⟨heq, hne, hgood⟩
      rw [Json.arr.inj heq, texts_map_str]
      have hfaults : itemFaults name (names.map Json.str) = [] :=
        itemFaults_eq_nil_iff.2 (by rw [texts_map_str])
      rw [hfaults, if_neg (by decide), if_neg (by simpa using hne), (hnames _).2 hgood]
  | _ => exact ⟨nofun, nofun⟩

lemma readDepth_eq_ok_iff {i : ℤ} :
    readDepth name input = .ok i ↔ integer input = .ok i ∧ 1 ≤ i := by
  unfold readDepth
  cases integer input with
  | error problem => exact ⟨nofun, fun h => nomatch h.1⟩
  | ok j =>
    dsimp only
    rw [Except.ok.injEq]
    split
    · exact ⟨nofun, fun ⟨heq, hle⟩ => by omega⟩
    · exact ⟨fun h => ⟨Except.ok.inj h, by have := Except.ok.inj h; omega⟩, fun h => h.1 ▸ rfl⟩

/-! ## Names -/

/-- An identifier, or one with a line break behind it. -/
def IsIdentifierLine (text : List Char) : Prop :=
  IsIdentifier text ∨ ∃ name, IsIdentifier name ∧ text = name ++ ['\n']

/-- The texts that pass for names are identifiers, but for a line break behind them. -/
theorem isIdentifier_iff {text : List Char} : isIdentifier text = true ↔ IsIdentifierLine text := by
  cases text with
  | nil =>
    refine ⟨nofun, ?_⟩
    rintro (⟨c, rest, heq, -⟩ | ⟨name, -, heq⟩)
    · cases heq
    · exact absurd heq (by simp)
  | cons c rest =>
    simp only [isIdentifier, Bool.and_eq_true, Bool.or_eq_true, List.all_eq_true, beq_iff_eq]
    constructor
    · rintro ⟨hstart, hrest | ⟨hlast, hfront⟩⟩
      · exact Or.inl ⟨c, rest, rfl, hstart, hrest⟩
      · obtain ⟨front, rfl⟩ := List.getLast?_eq_some_iff.1 hlast
        rw [List.dropLast_concat] at hfront
        exact Or.inr ⟨c :: front, ⟨c, front, rfl, hstart, hfront⟩, rfl⟩
    · rintro (⟨d, others, heq, hstart, hrest⟩ | ⟨name, ⟨d, others, rfl, hstart, hrest⟩, heq⟩)
      · obtain ⟨rfl, rfl⟩ := List.cons.inj heq
        exact ⟨hstart, Or.inl hrest⟩
      · rw [List.cons_append] at heq
        obtain ⟨rfl, rfl⟩ := List.cons.inj heq
        exact ⟨hstart, Or.inr ⟨List.getLast?_concat, by rwa [List.dropLast_concat]⟩⟩

/-- What passes for a name is an identifier if it does not end with a line break. -/
lemma IsIdentifierLine.isIdentifier_iff {text : List Char} (h : IsIdentifierLine text) :
    IsIdentifier text ↔ text.getLast? ≠ some '\n' := by
  constructor
  · intro hname hlast
    exact absurd (hname.isNameChar '\n' (List.mem_of_getLast? hlast)) (by decide +kernel)
  · intro hlast
    rcases h with hname | ⟨name, -, rfl⟩
    · exact hname
    · exact absurd List.getLast?_concat hlast

/-! ## All settings -/

/-- The members of an object say settings. -/
structure Say (members : List (String × Json)) (s : Settings) : Prop where
  entryNames : Says members "entry_names" ({} : Settings).entryNames
    (fun value names => value = .arr (names.map .str)) s.entryNames
  nameSuffix : Says members "name_suffix" ({} : Settings).nameSuffix
    (fun value text => value = .str text) s.nameSuffix
  builderNamespace : Says members "builder_namespace" ({} : Settings).builderNamespace
    (fun value text => value = .str text) s.builderNamespace
  containerHint : Says members "container_hint" ({} : Settings).containerHint
    (fun value text => value = .str text) s.containerHint
  maxDepth : Says members "max_depth" ({} : Settings).maxDepth
    (fun value i => integer value = .ok i) s.maxDepth

/-- Settings with an entry name, names of a kind, and a depth of at least one. -/
structure Fit (IsName : List Char → Prop) (s : Settings) : Prop where
  entry : s.entryNames ≠ []
  entryNames : ∀ n ∈ s.entryNames, IsName n.toList
  nameSuffix : IsName s.nameSuffix.toList
  builderNamespace : IsName s.builderNamespace.toList
  maxDepth : 1 ≤ s.maxDepth

/-- The defaults are fit. -/
lemma fit_default : Fit IsIdentifier {} := by
  constructor <;> decide +kernel

lemma Fit.line (h : Fit IsIdentifier s) : Fit IsIdentifierLine s :=
  ⟨h.entry, fun n hn => Or.inl (h.entryNames n hn), Or.inl h.nameSuffix, Or.inl h.builderNamespace,
    h.maxDepth⟩

/-- An object is accepted if each of its settings is read. -/
lemma ofJson_obj_eq_ok_iff :
    ofJson (.obj members) = .ok s ↔
      member members "entry_names" ({} : Settings).entryNames (readEntryNames "entry_names")
        = .ok s.entryNames ∧
      member members "name_suffix" ({} : Settings).nameSuffix (readIdentifier "name_suffix")
        = .ok s.nameSuffix ∧
      member members "builder_namespace" ({} : Settings).builderNamespace
        (readIdentifier "builder_namespace") = .ok s.builderNamespace ∧
      member members "container_hint" ({} : Settings).containerHint (readText "container_hint")
        = .ok s.containerHint ∧
      member members "max_depth" ({} : Settings).maxDepth (readDepth "max_depth")
        = .ok s.maxDepth := by
  unfold ofJson
  dsimp only
  constructor
  · intro h
    split at h
    · rename_i hentry hsuffix hnamespace hhint hdepth
      rw [← Except.ok.inj h]
      exact ⟨hentry, hsuffix, hnamespace, hhint, hdepth⟩
    · cases h
  · rintro ⟨hentry, hsuffix, hnamespace, hhint, hdepth⟩
    rw [hentry, hsuffix, hnamespace, hhint, hdepth]

/-- A value is accepted as settings exactly if it is an object whose members say them and they
fit, line breaks behind the names let through. -/
theorem ofJson_eq_ok_iff :
    ofJson value = .ok s ↔
      ∃ members, value = .obj members ∧ Say members s ∧ Fit IsIdentifierLine s := by
  -- every reader takes its member for something and has a condition, which its default meets
  have hdefault := fit_default.line
  have hname : ∀ name : String, ∀ input text, readIdentifier name input = .ok text ↔
      input = .str text ∧ IsIdentifierLine text.toList := by
    intro name input text
    rw [readIdentifier_eq_ok_iff, isIdentifier_iff]
  have hnames : ∀ input names, readEntryNames "entry_names" input = .ok names ↔
      input = .arr (names.map .str) ∧ names ≠ [] ∧ ∀ n ∈ names, IsIdentifierLine n.toList := by
    intro input names
    simp only [readEntryNames_eq_ok_iff, isIdentifier_iff]
  have hhint : ∀ input text, readText "container_hint" input = .ok text ↔
      input = .str text ∧ True := by
    intro input text
    rw [readText_eq_ok_iff, and_true]
  cases value with
  | obj members =>
    rw [ofJson_obj_eq_ok_iff, member_eq_ok_iff hnames ⟨hdefault.entry, hdefault.entryNames⟩,
      member_eq_ok_iff (hname _) hdefault.nameSuffix,
      member_eq_ok_iff (hname _) hdefault.builderNamespace, member_eq_ok_iff hhint trivial,
      member_eq_ok_iff (fun _ _ => readDepth_eq_ok_iff) hdefault.maxDepth]
    constructor
    · rintro ⟨⟨hentry, hentry'⟩, ⟨hsuffix, hsuffix'⟩, ⟨hnamespace, hnamespace'⟩, ⟨hhint, -⟩,
        hdepth, hdepth'⟩
      exact ⟨members, rfl, ⟨hentry, hsuffix, hnamespace, hhint, hdepth⟩,
        ⟨hentry'.1, hentry'.2, hsuffix', hnamespace', hdepth'⟩⟩
    · rintro ⟨_, heq, hsay, hfit⟩
      rw [← Json.obj.inj heq] at hsay
      exact ⟨⟨hsay.entryNames, hfit.entry, hfit.entryNames⟩, ⟨hsay.nameSuffix, hfit.nameSuffix⟩,
        ⟨hsay.builderNamespace, hfit.builderNamespace⟩, ⟨hsay.containerHint, trivial⟩,
        hsay.maxDepth, hfit.maxDepth⟩
  | _ => exact ⟨nofun, fun ⟨_, heq, _⟩ => nomatch heq⟩

/-- Every object that says settings whose names are identifiers is accepted as these. -/
theorem ofJson_of_identifiers (hsay : Say members s) (hfit : Fit IsIdentifier s) :
    ofJson (.obj members) = .ok s :=
  ofJson_eq_ok_iff.2 ⟨members, rfl, hsay, hfit.line⟩

/-- The names of accepted settings are identifiers exactly if none ends with a line break. -/
theorem identifiers_iff_of_ofJson (h : ofJson value = .ok s) :
    Fit IsIdentifier s ↔
      ∀ n ∈ s.nameSuffix :: s.builderNamespace :: s.entryNames, n.toList.getLast? ≠ some '\n' := by
  obtain ⟨members, -, -, hfit⟩ := ofJson_eq_ok_iff.1 h
  rw [List.forall_mem_cons, List.forall_mem_cons, ← hfit.nameSuffix.isIdentifier_iff,
    ← hfit.builderNamespace.isIdentifier_iff]
  constructor
  · exact fun h => ⟨h.nameSuffix, h.builderNamespace, fun n hn =>
      (hfit.entryNames n hn).isIdentifier_iff.1 (h.entryNames n hn)⟩
  · exact fun ⟨hsuffix, hnamespace, hentry⟩ => ⟨hfit.entry, fun n hn =>
      (hfit.entryNames n hn).isIdentifier_iff.2 (hentry n hn), hsuffix, hnamespace, hfit.maxDepth⟩

/-- A namespace with a line break behind it is accepted. -/
theorem ofJson_line_break :
    ofJson (.obj [("builder_namespace", .str "z\n")]) = .ok { builderNamespace := "z\n" } ∧
      ¬ Fit IsIdentifier { builderNamespace := "z\n" } := by
  have hsay : Say [("builder_namespace", .str "z\n")] { builderNamespace := "z\n" } :=
    ⟨rfl, rfl, rfl, rfl, rfl⟩
  have hfit : Fit IsIdentifierLine { builderNamespace := "z\n" } :=
    { fit_default.line with builderNamespace := Or.inr ⟨['z'], by decide, rfl⟩ }
  have haccepted := ofJson_eq_ok_iff.2 ⟨_, rfl, hsay, hfit⟩
  exact ⟨haccepted, fun h =>
    (identifiers_iff_of_ofJson haccepted).1 h "z\n" (by decide) (by decide)⟩

/-- Settings that are written as JSON come back exactly if they fit. -/
theorem ofJson_toJson_iff {t : Settings} :
    ofJson s.toJson = .ok t ↔ t = s ∧ Fit IsIdentifierLine s := by
  constructor
  · intro h
    obtain ⟨members, heq, hsay, hfit⟩ := ofJson_eq_ok_iff.1 h
    obtain rfl := Json.obj.inj heq
    have hts : t = s := by
      obtain ⟨entryNames, nameSuffix, builderNamespace, containerHint, maxDepth⟩ := t
      have hnames := List.map_injective_iff.2 (fun a b => Json.str.inj)
        (Json.arr.inj (show Json.arr _ = Json.arr _ from hsay.entryNames))
      have hsuffix := Json.str.inj (show Json.str _ = Json.str _ from hsay.nameSuffix)
      have hnamespace := Json.str.inj (show Json.str _ = Json.str _ from hsay.builderNamespace)
      have hhint := Json.str.inj (show Json.str _ = Json.str _ from hsay.containerHint)
      have hdepth := Except.ok.inj (show Except.ok _ = Except.ok _ from hsay.maxDepth)
      subst hnames hsuffix hnamespace hhint hdepth
      rfl
    exact ⟨hts, hts ▸ hfit⟩
  · rintro ⟨rfl, hfit⟩
    exact ofJson_eq_ok_iff.2 ⟨_, rfl, ⟨rfl, rfl, rfl, rfl, rfl⟩, hfit⟩

end SlideContract.Settings
