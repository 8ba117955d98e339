import SlideContract.Proofs.Text.Blank
import SlideContract.Text.Part
import SlideContract.Text.Word

/-!
# Names

An identifier opens with a letter, and runs on over name characters up to the first other one. No
blank is a name character.
-/

namespace SlideContract.Text

/-- A text begins with another if that comes first. -/
lemma after?_eq_some_iff {start text rest : List Char} :
    after? start text = some rest ↔ text = start ++ rest := by
  -- along the beginning, one character at a time
  induction start generalizing text with
  | nil =>
    rw [after?, Option.some.injEq, List.nil_append]
  | cons a start ih =>
    cases text with
    | nil => simp [after?]
    | cons c text =>
      rw [after?, List.cons_append]
      split
      · rename_i hac
        rw [ih, hac, List.cons.injEq, eq_self_iff_true, true_and]
      · rename_i hac
        constructor
        · exact fun h => absurd h (by simp)
        · exact fun h => absurd (List.cons.inj h).1.symm hac

/-- A name that an identifier may be. -/
def IsIdentifier (name : List Char) : Prop :=
  ∃ c rest, name = c :: rest ∧ isNameStart c = true ∧ ∀ d ∈ rest, isNameChar d = true

lemma isIdentifier_iff {name : List Char} :
    IsIdentifier name ↔
      name.head?.any isNameStart = true ∧ name.tail.all isNameChar = true := by
  cases name with
  | nil => simp [IsIdentifier]
  | cons c rest =>
    constructor
    · rintro ⟨d, ds, heq, hstart, hrest⟩
      obtain ⟨rfl, rfl⟩ := List.cons.inj heq
      exact ⟨hstart, List.all_eq_true.2 hrest⟩
    · rintro ⟨hstart, hrest⟩
      exact ⟨c, rest, rfl, hstart, List.all_eq_true.1 hrest⟩

instance : DecidablePred IsIdentifier := fun _ => decidable_of_iff _ isIdentifier_iff.symm

/-- Of the ASCII characters, names hold the letters, the digits, the underscore and the dollar
sign. -/
lemma isNameChar_of_ascii {c : Char} (h : c.toNat < 128) :
    isNameChar c = (c.isAlphanum || c == '_' || c == '$') := by
  have hpoints : ∀ n < 128, isNameChar (Char.ofNat n)
      = ((Char.ofNat n).isAlphanum || Char.ofNat n == '_' || Char.ofNat n == '$') := by
    decide +kernel
  have hchar := hpoints c.toNat h
  rw [Char.ofNat_toNat] at hchar
  exact hchar

/-- An ASCII character that no name holds. -/
def isSeparator (c : Char) : Bool :=
  c.toNat < 128 && !(c.isAlphanum || c == '_' || c == '$')

lemma isNameChar_of_isSeparator {c : Char} (h : isSeparator c = true) : isNameChar c = false := by
  obtain ⟨hascii, hnone⟩ := Bool.and_eq_true_iff.1 h
  rw [isNameChar_of_ascii (of_decide_eq_true hascii)]
  rwa [Bool.not_eq_true'] at hnone

/-- The text does not go on with a name. -/
def EndsName (text : List Char) : Prop := ∀ c ∈ text.head?, isNameChar c = false

lemma endsName_cons {c : Char} (h : isNameChar c = false) (text : List Char) :
    EndsName (c :: text) := by
  intro d hd
  rw [← Option.some.inj (show some c = some d from hd)]
  exact h

/-- A separator goes on with no name. -/
lemma endsName_of_isSeparator {c : Char} (h : isSeparator c = true) (text : List Char) :
    EndsName (c :: text) :=
  endsName_cons (isNameChar_of_isSeparator h) text

/-- The code points of the blanks. -/
def blankPoints : List ℕ :=
  [0x09, 0x0a, 0x0b, 0x0c, 0x0d, 0x1c, 0x1d, 0x1e, 0x1f, 0x20, 0x85, 0xa0, 0x1680, 0x2000, 0x2001,
   0x2002, 0x2003, 0x2004, 0x2005, 0x2006, 0x2007, 0x2008, 0x2009, 0x200a, 0x2028, 0x2029, 0x202f,
   0x205f, 0x3000]

lemma mem_blankPoints {c : Char} (h : isBlank c = true) : c.toNat ∈ blankPoints := by
  simp only [isBlank, Bool.or_eq_true, Bool.and_eq_true, beq_iff_eq, decide_eq_true_eq] at h
  simp only [blankPoints, List.mem_cons, List.not_mem_nil, or_false]
  omega

/-- Blanks are no name characters. -/
lemma isNameChar_of_isBlank {c : Char} (h : isBlank c = true) : isNameChar c = false := by
  have hdollar : (c == '$') = false := by
    apply beq_false_of_ne
    rintro rfl
    exact absurd h (by decide)
  have hpoints : ∀ n ∈ blankPoints, inRanges wordRanges n = false := by decide +kernel
  unfold isNameChar isWord
  rw [hpoints _ (mem_blankPoints h), hdollar]
  rfl

lemma isBlank_of_isNameChar {c : Char} (h : isNameChar c = true) : isBlank c = false := by
  rw [Bool.eq_false_iff]
  intro hblank
  rw [isNameChar_of_isBlank hblank] at h
  exact absurd h (by decide)

/-- An identifier opens with no blank. -/
lemma isBlank_of_isNameStart {c : Char} (h : isNameStart c = true) : isBlank c = false := by
  rw [Bool.eq_false_iff]
  intro hblank
  have hpoints : ∀ n ∈ blankPoints, isNameStart (Char.ofNat n) = false := by decide
  have hstart := hpoints _ (mem_blankPoints hblank)
  rw [Char.ofNat_toNat, h] at hstart
  exact absurd hstart (by decide)

lemma isNameChar_of_isNameStart {c : Char} (h : isNameStart c = true) : isNameChar c = true := by
  have hascii : c.toNat < 128 := by
    have hcases : (((c.isUpper || c.isLower) || c == '_') || c == '$') = true := h
    simp only [Bool.or_eq_true, beq_iff_eq] at hcases
    rcases hcases with ((hupper | hlower) | rfl) | rfl
    · have hle : 'A'.val ≤ c.val ∧ c.val ≤ 'Z'.val := of_decide_eq_true hupper
      exact Nat.lt_of_le_of_lt hle.2 (by decide)
    · have hle : c.val ≤ 'z'.val := of_decide_eq_true (Bool.and_eq_true_iff.1 hlower).2
      exact Nat.lt_of_le_of_lt hle (by decide)
    · decide
    · decide
  unfold isNameStart at h
  rw [isNameChar_of_ascii hascii]
  simp only [Char.isAlphanum, Bool.or_eq_true] at h ⊢
  exact h.imp_left fun hword => hword.imp_left Or.inl

lemma isNameStart_of_isAlpha {c : Char} (h : c.isAlpha = true) : isNameStart c = true := by
  unfold isNameStart
  rw [h]
  rfl

/-- A word of letters is an identifier. -/
lemma isIdentifier_of_letters {name : List Char}
    (h : (!name.isEmpty && name.all Char.isAlpha) = true) : IsIdentifier name := by
  cases name with
  | nil => exact absurd h (by decide)
  | cons c rest =>
    have hletters := List.all_eq_true.1 (Bool.and_eq_true_iff.1 h).2
    exact ⟨c, rest, rfl, isNameStart_of_isAlpha (hletters c List.mem_cons_self), fun d hd =>
      isNameChar_of_isNameStart (isNameStart_of_isAlpha (hletters d (List.mem_cons_of_mem _ hd)))⟩

/-- The characters of an identifier are name characters. -/
lemma IsIdentifier.isNameChar {name : List Char} (h : IsIdentifier name) :
    ∀ c ∈ name, isNameChar c = true := by
  obtain ⟨c, rest, rfl, hstart, hrest⟩ := h
  intro d hd
  rcases List.mem_cons.1 hd with rfl | hd
  · exact isNameChar_of_isNameStart hstart
  · exact hrest d hd

lemma IsIdentifier.starts {name : List Char} (h : IsIdentifier name) (text : List Char) :
    Starts (name ++ text) := by
  obtain ⟨c, rest, rfl, hstart, -⟩ := h
  exact starts_cons (isBlank_of_isNameStart hstart) _

lemma IsIdentifier.stops {name : List Char} (h : IsIdentifier name) : Stops name :=
  fun c hc => isBlank_of_isNameChar (h.isNameChar c (List.mem_of_mem_getLast? hc))

/-- Blanks do not go on with a name, if what follows them does not. -/
lemma endsName_append {blanks text : List Char} (h : ∀ c ∈ blanks, isBlank c = true)
    (htext : EndsName text) : EndsName (blanks ++ text) := by
  cases blanks with
  | nil => exact htext
  | cons c rest => exact endsName_cons (isNameChar_of_isBlank (h c List.mem_cons_self)) _

end SlideContract.Text
