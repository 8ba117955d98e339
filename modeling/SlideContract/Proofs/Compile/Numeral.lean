import Mathlib.Data.Int.Notation
import Mathlib.Data.List.TakeWhile
import SlideContract.Compile.Modifiers
import SlideContract.Proofs.Chain.Tame
import SlideContract.Proofs.Scan.Split

/-!
# Numerals in source text

The numeral of an integer is its shortest decimal. It is read back as the same integer, unless it
has more digits than are read.

* `naturalArgument_numeral`, `numberArgument_numeral`: what is read from a numeral.
-/

namespace SlideContract.Compile
open Scan Text

/-- The numeral of an integer. -/
def numeral (i : ℤ) : List Char := (toString i).toList

/-- The integer has no more digits than are read. -/
def Readable (i : ℤ) : Prop := (Nat.toDigits 10 i.natAbs).length ≤ digitLimit

lemma numeral_of_nonneg (n : ℕ) : numeral n = Nat.toDigits 10 n := by
  unfold numeral
  rw [show toString (n : ℤ) = Nat.repr n from rfl, Nat.toList_repr]

lemma numeral_of_neg (n : ℕ) : numeral (Int.negSucc n) = '-' :: Nat.toDigits 10 (n + 1) := by
  unfold numeral
  rw [show toString (Int.negSucc n) = "-" ++ Nat.repr (n + 1) from rfl, String.toList_append,
    Nat.toList_repr]
  rfl

/-! ## Digits -/

lemma digitValue?_of_isDigit {c : Char} (h : c.isDigit = true) :
    digitValue? c = some (c.toNat - '0'.toNat) := by
  have hlow : 48 ≤ c.toNat ∧ c.toNat ≤ 57 := by
    rw [Char.isDigit, Bool.and_eq_true, decide_eq_true_eq, decide_eq_true_eq] at h
    exact ⟨h.1, h.2⟩
  have hrange : rangeStart? digitRanges c.toNat = some 48 := by
    unfold digitRanges rangeStart?
    rw [if_neg (by omega), if_pos (by omega)]
  have hmod : (c.toNat - 48) % 10 = c.toNat - 48 := Nat.mod_eq_of_lt (by omega)
  unfold digitValue?
  rw [hrange, Option.map_some, hmod]
  rfl

lemma isDigit_of_isDigit {c : Char} (h : c.isDigit = true) : isDigit c = true := by
  unfold isDigit
  rw [digitValue?_of_isDigit h]
  rfl

lemma isDigit_of_mem_toDigits {n : ℕ} {c : Char} (h : c ∈ Nat.toDigits 10 n) :
    c.isDigit = true :=
  Nat.isDigit_of_mem_toDigits (by decide) (by decide) h

lemma isNameChar_of_isDigit {c : Char} (h : c.isDigit = true) : isNameChar c = true := by
  have hlow : 48 ≤ c.toNat ∧ c.toNat ≤ 57 := by
    rw [Char.isDigit, Bool.and_eq_true, decide_eq_true_eq, decide_eq_true_eq] at h
    exact ⟨h.1, h.2⟩
  have hrange : rangeStart? wordRanges c.toNat = some 48 := by
    unfold wordRanges rangeStart?
    rw [if_neg (by omega), if_pos (by omega)]
  unfold isNameChar isWord inRanges
  rw [hrange]
  rfl

lemma natOfDigits_toDigits (n : ℕ) : natOfDigits (Nat.toDigits 10 n) = n := by
  have hfold : ∀ (digits : List Char) (total : ℕ), (∀ c ∈ digits, c.isDigit = true) →
      digits.foldl (fun total c => 10 * total + (digitValue? c).getD 0) total
        = Nat.ofDigitChars 10 digits total := by
    intro digits
    induction digits with
    | nil => exact fun total _ => rfl
    | cons c rest ih =>
      intro total h
      rw [List.foldl_cons, digitValue?_of_isDigit (h c List.mem_cons_self), Nat.ofDigitChars_cons]
      exact ih _ fun d hd => h d (List.mem_cons_of_mem _ hd)
  unfold natOfDigits
  rw [hfold _ _ fun c hc => isDigit_of_mem_toDigits hc]
  exact Nat.ofDigitChars_ten_toDigits

/-! ## Numerals -/

/-- A numeral is a tame text, and holds no separator. -/
lemma tame_numeral (i : ℤ) : Tame (numeral i) ∧ Uncut ',' (numeral i) := by
  have hname : ∀ n, ∀ c ∈ Nat.toDigits 10 n, isNameChar c = true :=
    fun n c hc => isNameChar_of_isDigit (isDigit_of_mem_toDigits hc)
  have hcomma : ∀ n, ∀ c ∈ Nat.toDigits 10 n, c ≠ ',' := by
    rintro n c hc rfl
    exact absurd (isDigit_of_mem_toDigits hc) (by decide)
  cases i with
  | ofNat n =>
    rw [Int.ofNat_eq_natCast, numeral_of_nonneg]
    exact ⟨.name (hname n), .of_forall (hcomma n)⟩
  | negSucc n =>
    rw [numeral_of_neg]
    refine ⟨.cons (by unfold Idle; decide) rfl (by decide) (.name (hname _)), .of_forall ?_⟩
    intro c hc
    rcases List.mem_cons.1 hc with rfl | hc
    · decide
    · exact hcomma _ c hc

/-- A numeral has no blanks at its ends, and is not empty. -/
lemma ends_numeral (i : ℤ) : Starts (numeral i) ∧ Stops (numeral i) ∧ numeral i ≠ [] := by
  have hblank : ∀ n, ∀ c ∈ Nat.toDigits 10 n, isBlank c = false :=
    fun n c hc => isBlank_of_isNameChar (isNameChar_of_isDigit (isDigit_of_mem_toDigits hc))
  -- neither a digit nor the sign is a blank
  have hall : ∀ c ∈ numeral i, isBlank c = false := by
    cases i with
    | ofNat n =>
      rw [Int.ofNat_eq_natCast, numeral_of_nonneg]
      exact hblank n
    | negSucc n =>
      rw [numeral_of_neg]
      intro c hc
      rcases List.mem_cons.1 hc with rfl | hc
      · decide
      · exact hblank _ c hc
  refine ⟨fun c hc => hall c (List.mem_of_mem_head? hc),
    fun c hc => hall c (List.mem_of_mem_getLast? hc), ?_⟩
  cases i with
  | ofNat n =>
    rw [Int.ofNat_eq_natCast, numeral_of_nonneg]
    exact Nat.toDigits_ne_nil
  | negSucc n =>
    rw [numeral_of_neg]
    exact List.cons_ne_nil _ _

lemma readNat_toDigits {n : ℕ} (h : (Nat.toDigits 10 n).length ≤ digitLimit) :
    readNat (Nat.toDigits 10 n) = .ok n := by
  unfold readNat
  rw [if_pos h, natOfDigits_toDigits]

/-- What a natural's numeral is read as. -/
theorem naturalArgument_numeral {n : ℕ} (h : Readable n) :
    naturalArgument (numeral n) = .ok (some n) := by
  have hdigits : (!(Nat.toDigits 10 n).isEmpty && (Nat.toDigits 10 n).all isDigit) = true := by
    rw [Bool.and_eq_true, List.all_eq_true]
    refine ⟨?_, fun c hc => isDigit_of_isDigit (isDigit_of_mem_toDigits hc)⟩
    simp [Nat.toDigits_ne_nil]
  unfold naturalArgument
  rw [numeral_of_nonneg, if_pos hdigits, readNat_toDigits (by simpa [Readable] using h)]
  rfl

/-- A numeral begins with its sign, if it has one. -/
lemma sign_toDigits (n : ℕ) : sign (Nat.toDigits 10 n) = (false, Nat.toDigits 10 n) := by
  cases hdigits : Nat.toDigits 10 n with
  | nil => rfl
  | cons c rest =>
    have hc : c.isDigit = true := isDigit_of_mem_toDigits (n := n) (by rw [hdigits]; simp)
    unfold sign
    split
    · rename_i heq
      rw [(List.cons.inj heq).1] at hc
      exact absurd hc (by decide)
    · rename_i heq
      rw [(List.cons.inj heq).1] at hc
      exact absurd hc (by decide)
    · rfl

/-- What an integer's numeral is read as. -/
theorem numberArgument_numeral {i : ℤ} (h : Readable i) :
    numberArgument (numeral i) = .ok (some (.int i)) := by
  have hdigits : ∀ n, ∀ c ∈ Nat.toDigits 10 n, isDigit c = true :=
    fun n c hc => isDigit_of_isDigit (isDigit_of_mem_toDigits hc)
  have htake : ∀ n, (Nat.toDigits 10 n).takeWhile isDigit = Nat.toDigits 10 n :=
    fun n => List.takeWhile_eq_self_iff.2 (hdigits n)
  have hdrop : ∀ n, (Nat.toDigits 10 n).dropWhile isDigit = [] :=
    fun n => List.dropWhile_eq_nil_iff.2 (hdigits n)
  have hempty : ∀ n, (Nat.toDigits 10 n).isEmpty = false := by
    intro n
    simp [Nat.toDigits_ne_nil]
  -- the numeral has a sign and digits, and neither a fraction nor an exponent
  have hnumeral : numeral? (numeral i)
      = some ⟨decide (i < 0), Nat.toDigits 10 i.natAbs, none, none⟩ := by
    have hsign : sign (numeral i) = (decide (i < 0), Nat.toDigits 10 i.natAbs) := by
      cases i with
      | ofNat n =>
        rw [Int.ofNat_eq_natCast, numeral_of_nonneg, sign_toDigits]
        simp
      | negSucc n =>
        have hneg : decide (Int.negSucc n < 0) = true := decide_eq_true (Int.negSucc_lt_zero n)
        rw [numeral_of_neg, hneg]
        rfl
    unfold numeral?
    rw [hsign]
    simp only [htake, hdrop, hempty]
    rfl
  unfold numberArgument
  rw [hnumeral]
  show ((readInt (decide (i < 0)) (Nat.toDigits 10 i.natAbs)).map Number.int).map some = _
  unfold readInt
  rw [readNat_toDigits h]
  show Except.ok (some (Number.int
    (if decide (i < 0) = true then -(i.natAbs : ℤ) else i.natAbs))) = _
  have hvalue : (if decide (i < 0) = true then -(i.natAbs : ℤ) else i.natAbs) = i := by
    split
    · rename_i hneg
      have := of_decide_eq_true hneg
      omega
    · rename_i hneg
      have := of_decide_eq_false (Bool.eq_false_iff.2 hneg)
      omega
  rw [hvalue]

end SlideContract.Compile
