import Mathlib.Data.Int.Basic
import Mathlib.Data.List.TakeWhile
import SlideContract.Proofs.Finding
import SlideContract.Proofs.Schema.Located

/-!
# Texts of locations

The text of a location can be read back if its names are plain, that is not empty and without the
characters that separate steps: what stands in front of the first separator is the first step, and
the separator tells whether a name or an index comes next. Only the root takes the text of a name.

* `Location.IsPlain`: locations of plain names;
* `Location.renderAfter_eq`: the text of steps behind others;
* `Location.render_inj`: the steps are read back from the text;
* `Verdict.paths_apart`: findings at different places of content have different paths.
-/

namespace SlideContract

namespace Location

/-- A dot stands before a name, and brackets around an index. -/
def isSeparator (c : Char) : Bool := c = '.' || c = '[' || c = ']'

/-- A name that is not empty and holds no separator. -/
def IsPlainName (name : String) : Prop := name ≠ "" ∧ ∀ c ∈ name.toList, isSeparator c = false

lemma isPlainName_iff {name : String} :
    IsPlainName name ↔ name ≠ "" ∧ name.toList.any isSeparator = false := by
  unfold IsPlainName
  rw [List.any_eq_false]
  simp only [Bool.not_eq_true]

instance : DecidablePred IsPlainName := fun _ => decidable_of_iff _ isPlainName_iff.symm

/-- A location whose names are plain. -/
def IsPlain (location : Location) : Prop := ∀ name, .name name ∈ location → IsPlainName name

/-- The text of a step behind others. -/
def stepText : Step → List Char
  | .index i => '[' :: ((toString i).toList ++ [']'])
  | .name n => '.' :: n.toList

variable {step : Step} {a b rest : Location} {x y s t : List Char}

lemma IsPlain.tail (h : IsPlain (step :: rest)) : IsPlain rest :=
  fun name hname => h name (List.mem_cons_of_mem _ hname)

lemma IsPlain.head {name : String} (h : IsPlain (.name name :: rest)) : IsPlainName name :=
  h name List.mem_cons_self

lemma isSeparator_of_isDigit {c : Char} (h : c.isDigit = true) : isSeparator c = false := by
  rw [Bool.eq_false_iff]
  intro hc
  simp only [isSeparator, Bool.or_eq_true, decide_eq_true_eq] at hc
  rcases hc with (rfl | rfl) | rfl <;> exact absurd h (by decide)

/-- An index is written with digits and a sign, which are no separators. -/
lemma isSeparator_of_mem_index {i : ℤ} {c : Char} (h : c ∈ (toString i).toList) :
    isSeparator c = false := by
  have hdigit : ∀ n : ℕ, c ∈ n.repr.toList → isSeparator c = false := by
    intro n hc
    rw [Nat.toList_repr] at hc
    exact isSeparator_of_isDigit (Nat.isDigit_of_mem_toDigits (by decide) (by decide) hc)
  rw [Int.toString_eq_repr, Int.repr_eq_if] at h
  split at h
  · exact hdigit _ h
  · rw [String.toList_append] at h
    rcases List.mem_append.1 h with hc | hc
    · rw [List.mem_singleton.1 hc]
      rfl
    · exact hdigit _ hc

/-- Indexes are told apart by their digits and their sign. -/
lemma index_inj {i j : ℤ} (h : toString i = toString j) : i = j := by
  have hsign : ∀ m n : ℕ, m.repr ≠ "-" ++ n.repr := by
    intro m n heq
    have hmem : '-' ∈ m.repr.toList := by
      rw [heq, String.toList_append]
      exact List.mem_append_left _ List.mem_cons_self
    rw [Nat.toList_repr] at hmem
    exact absurd (Nat.isDigit_of_mem_toDigits (by decide) (by decide) hmem) (by decide)
  have hdigits : ∀ m n : ℕ, m.repr = n.repr → m = n := by
    intro m n heq
    have hread := congrArg (fun text => Nat.ofDigitChars 10 text.toList 0) heq
    simpa only [Nat.toList_repr, Nat.ofDigitChars_ten_toDigits] using hread
  rw [Int.toString_eq_repr, Int.toString_eq_repr, Int.repr_eq_if, Int.repr_eq_if] at h
  split at h <;> split at h
  · have := hdigits _ _ h
    omega
  · exact absurd h (hsign _ _)
  · exact absurd h.symm (hsign _ _)
  · have := hdigits _ _ ((String.append_right_inj _).1 h)
    omega

/-! ## The text of steps -/

lemma renderAfter_eq (location : Location) (written : String) (h : written ≠ "") :
    (renderAfter written location).toList = written.toList ++ location.flatMap stepText := by
  induction location generalizing written with
  | nil => rw [renderAfter, List.flatMap_nil, List.append_nil]
  | cons step rest ih =>
    cases step with
    | index i =>
      rw [renderAfter, ih _ (by simp)]
      simp [stepText]
    | name n =>
      rw [renderAfter, if_neg (by simpa using h), ih _ (by simp)]
      simp [stepText]

/-- The text of a location without the dot in front of a first name. -/
def text : Location → List Char
  | .name n :: rest => n.toList ++ rest.flatMap stepText
  | location => location.flatMap stepText

lemma renderAfter_empty (h : IsPlain a) : (renderAfter "" a).toList = text a := by
  cases a with
  | nil => rfl
  | cons step rest =>
    cases step with
    | index i =>
      rw [renderAfter, renderAfter_eq _ _ (by simp)]
      simp [text, stepText]
    | name n =>
      rw [renderAfter, if_pos (by rfl), renderAfter_eq _ _ h.head.1]
      rfl

/-! ## Reading steps back -/

/-- What stands in front of the first separator is known from the whole. -/
lemma append_inj_of_separator (hx : ∀ c ∈ x, isSeparator c = false)
    (hy : ∀ c ∈ y, isSeparator c = false) (hs : s.takeWhile (!isSeparator ·) = [])
    (ht : t.takeWhile (!isSeparator ·) = []) (h : x ++ s = y ++ t) : x = y ∧ s = t := by
  have htake := congrArg (List.takeWhile (!isSeparator ·)) h
  rw [List.takeWhile_append_of_pos fun c hc => by rw [hx c hc]; rfl,
    List.takeWhile_append_of_pos fun c hc => by rw [hy c hc]; rfl, hs, ht, List.append_nil,
    List.append_nil] at htake
  subst htake
  exact ⟨rfl, List.append_cancel_left h⟩

lemma flatMap_stepText_index (i : ℤ) (rest : Location) :
    (Step.index i :: rest).flatMap stepText
      = '[' :: ((toString i).toList ++ ']' :: rest.flatMap stepText) := by
  rw [List.flatMap_cons, stepText, List.cons_append, List.append_assoc, List.singleton_append]

/-- Each step behind others begins with a separator. -/
lemma takeWhile_flatMap_stepText (location : Location) :
    (location.flatMap stepText).takeWhile (!isSeparator ·) = [] := by
  cases location with
  | nil => rfl
  | cons step rest => cases step <;> rfl

lemma name_append_inj {m n : String} (hm : IsPlainName m) (hn : IsPlainName n)
    (h : m.toList ++ a.flatMap stepText = n.toList ++ b.flatMap stepText) :
    m = n ∧ a.flatMap stepText = b.flatMap stepText := by
  obtain ⟨hname, hrest⟩ := append_inj_of_separator hm.2 hn.2 (takeWhile_flatMap_stepText a)
    (takeWhile_flatMap_stepText b) h
  exact ⟨String.toList_inj.1 hname, hrest⟩

lemma flatMap_stepText_inj (ha : IsPlain a) (hb : IsPlain b)
    (h : a.flatMap stepText = b.flatMap stepText) : a = b := by
  -- the separator in front tells the kind of the first step, and its text ends at the next one
  induction a generalizing b with
  | nil =>
    cases b with
    | nil => rfl
    | cons step rest => cases step <;> cases h
  | cons first rest ih =>
    cases b with
    | nil => cases first <;> cases h
    | cons other others =>
      cases first with
      | index i =>
        cases other with
        | index j =>
          rw [flatMap_stepText_index, flatMap_stepText_index] at h
          have h := List.tail_eq_of_cons_eq h
          obtain ⟨hindex, hrest⟩ := append_inj_of_separator
            (fun c => isSeparator_of_mem_index) (fun c => isSeparator_of_mem_index) rfl rfl h
          rw [index_inj (String.toList_inj.1 hindex),
            ih ha.tail hb.tail (List.tail_eq_of_cons_eq hrest)]
        | name n => exact absurd (List.head_eq_of_cons_eq h) (by decide)
      | name m =>
        cases other with
        | index j => exact absurd (List.head_eq_of_cons_eq h) (by decide)
        | name n =>
          obtain ⟨rfl, hrest⟩ := name_append_inj ha.head hb.head (List.tail_eq_of_cons_eq h)
          rw [ih ha.tail hb.tail hrest]

lemma name_append_ne {n : String} {i : ℤ} (hn : IsPlainName n) :
    n.toList ++ x ≠ (Step.index i :: rest).flatMap stepText := by
  intro h
  cases hlist : n.toList with
  | nil => exact hn.1 (String.toList_eq_nil_iff.1 hlist)
  | cons c chars =>
    rw [hlist] at h
    have hc := hn.2 c (by rw [hlist]; exact List.mem_cons_self)
    rw [List.head_eq_of_cons_eq h] at hc
    exact absurd hc (by decide)

lemma name_append_ne_nil {n : String} (hn : IsPlainName n) : n.toList ++ x ≠ [] :=
  fun h => hn.1 (String.toList_eq_nil_iff.1 (List.append_eq_nil_iff.1 h).1)

lemma text_ne_nil (h : IsPlain a) (hne : a ≠ []) : text a ≠ [] := by
  match a with
  | [] => exact absurd rfl hne
  | .index i :: rest => exact nofun
  | .name n :: rest => exact name_append_ne_nil h.head

/-- Locations are read back from their texts. -/
lemma text_inj (ha : IsPlain a) (hb : IsPlain b) (h : text a = text b) : a = b := by
  match a, b with
  | .name m :: _, .name n :: _ =>
    obtain ⟨rfl, hrest⟩ := name_append_inj ha.head hb.head h
    rw [flatMap_stepText_inj ha.tail hb.tail hrest]
  -- a name does not begin with a bracket, and is not empty
  | .name m :: _, .index i :: _ => exact absurd h (name_append_ne ha.head)
  | .index i :: _, .name n :: _ => exact absurd h.symm (name_append_ne hb.head)
  | .name m :: _, [] => exact absurd h (name_append_ne_nil ha.head)
  | [], .name n :: _ => exact absurd h.symm (name_append_ne_nil hb.head)
  | [], [] | [], .index i :: _ | .index i :: _, [] | .index i :: _, .index j :: _ =>
    exact flatMap_stepText_inj ha hb h

lemma render_eq (h : IsPlain a) (hne : a ≠ []) : (render a).toList = text a := by
  unfold render
  dsimp only
  rw [if_neg ?_, renderAfter_empty h]
  rw [String.isEmpty_iff, ← String.toList_eq_nil_iff, renderAfter_empty h]
  exact text_ne_nil h hne

/-- Locations of plain names have different texts, but for the name that is written like the
root. -/
theorem render_inj (ha : IsPlain a) (hb : IsPlain b) (haroot : a ≠ [.name "(root)"])
    (hbroot : b ≠ [.name "(root)"]) (h : render a = render b) : a = b := by
  have hroot : ∀ l, IsPlain l → l ≠ [.name "(root)"] → render [] = render l → l = [] := by
    intro l hl hne heq
    by_contra hnil
    -- a text that is the root's is read back as the one name that is written like it
    have hname : IsPlain [.name "(root)"] := by
      intro n hn
      obtain rfl := Step.name.inj (List.mem_singleton.1 hn)
      decide
    refine hne (text_inj hl hname ?_)
    rw [← render_eq hl hnil, ← heq]
    rfl
  by_cases hanil : a = []
  · subst hanil
    exact (hroot b hb hbroot h).symm
  · by_cases hbnil : b = []
    · subst hbnil
      exact hroot a ha haroot h.symm
    · exact text_inj ha hb (by rw [← render_eq ha hanil, h, render_eq hb hbnil])

end Location

namespace Verdict
open Location

/-- Different locations have different texts, and findings at different places of content have
different paths, if the names are plain and none is the only one on its way and written like the
root. -/
theorem paths_apart :
    (∀ a b : Location, a.IsPlain → b.IsPlain → a ≠ [.name "(root)"] → b ≠ [.name "(root)"] →
      a ≠ b → render a ≠ render b) ∧
    ∀ (document content : Json) (verdict : Verdict), content.HasNames IsPlainName →
      ofValue document content = .ok verdict →
      ∃ found, Schema.violations document content = .ok found ∧
        verdict.findings = found.map .ofViolation ∧
        ∀ v ∈ found, ∀ w ∈ found,
          v.location ≠ [.name "(root)"] → w.location ≠ [.name "(root)"] →
          v.location ≠ w.location →
          (Finding.ofViolation v).path ≠ (Finding.ofViolation w).path := by
  constructor
  · exact fun a b ha hb haroot hbroot hne heq => hne (render_inj ha hb haroot hbroot heq)
  · intro document content verdict hnames hverdict
    obtain ⟨found, hfound, hfindings⟩ := exists_violations_of_ofValue hverdict
    have hplain : ∀ v ∈ found, v.location.IsPlain := by
      intro v hv name hname
      obtain ⟨part, hpart⟩ := Schema.located_of_violations hfound v hv
      exact hpart.forall_name hnames hname
    refine ⟨found, hfound, hfindings, fun v hv w hw hvroot hwroot hne heq => hne ?_⟩
    exact render_inj (hplain v hv) (hplain w hw) hvroot hwroot heq

/-- A number where a string is to be, and one in a list of strings. -/
theorem paths_apart_two :
    let document := Json.obj [("properties", .obj [("a", .obj [("type", .str "string")]),
      ("b", .obj [("items", .obj [("type", .str "string")])])])]
    let content := Json.obj [("a", .num (.int 1)), ("b", .arr [.num (.int 2)])]
    render [.name "b", .index 0] ≠ render [.index 0, .name "b"] ∧
    ∃ found, Schema.violations document content = .ok found ∧
      (found.map Schema.Violation.key).Perm
        [([.name "a"], "type"), ([.name "b", .index 0], "type")] ∧
      ∀ v ∈ found, ∀ w ∈ found,
        v.location ≠ [.name "(root)"] → w.location ≠ [.name "(root)"] →
        v.location ≠ w.location → (Finding.ofViolation v).path ≠ (Finding.ofViolation w).path := by
  intro document content
  have hplain : ∀ n, n = "b" → IsPlainName n := by
    rintro n rfl
    decide
  have hnames : content.HasNames IsPlainName := by
    refine .obj fun m hm => ?_
    rcases List.mem_pair.1 hm with rfl | rfl
    · exact ⟨by decide, .of_isScalar trivial⟩
    · refine ⟨by decide, .arr fun item hitem => ?_⟩
      rw [List.mem_singleton.1 hitem]
      exact .of_isScalar trivial
  constructor
  · exact paths_apart.1 _ _ (fun n hn => hplain n (by simpa using hn))
      (fun n hn => hplain n (by simpa using hn)) (by decide) (by decide) (by decide)
  · -- the violations are in no given order, so they are compared with the listed ones up to a
    -- permutation
    have hfinds : Schema.Finds (Schema.check document content)
        [([.name "a"], "type"), ([.name "b", .index 0], "type")] := ⟨rfl, .refl _⟩
    obtain ⟨found, hfound, hperm, -⟩ := exists_violations hfinds
    obtain ⟨others, hothers, -, hapart⟩ := paths_apart.2 _ _ _ hnames (ofValue_eq hfound)
    obtain rfl := Except.ok.inj (hfound.symm.trans hothers)
    exact ⟨found, hfound, hperm, hapart⟩

end Verdict
end SlideContract
