import Mathlib.Algebra.Order.Field.Power
import Mathlib.Data.Rat.Cast.Order
import Mathlib.Tactic.FieldSimp
import Mathlib.Tactic.Linarith
import Mathlib.Tactic.NormNum
import Mathlib.Tactic.Positivity
import Mathlib.Tactic.Ring
import SlideContract.Number.Basic

/-!
# Decimals that are too large

A decimal is read as the nearest binary64 value, and as infinity if it is as near to `2 ^ 1024` as
to any value below. The greatest finite value is `2 ^ 1024 - 2 ^ 971`; half way from there to
`2 ^ 1024` the tie goes up, so that `2 ^ 1024 - 2 ^ 970` is the least magnitude that is read as
infinity.

* `floorLog2_spec`: the exponent of a quotient;
* `roundDiv_eq_iff`: when a quotient is rounded up to an even natural;
* `fits_ofRatio`, `fits_ofDecimal`: what is rounded to infinity, and what to a finite value.
-/

namespace SlideContract.Binary64

/-- The least magnitude that is rounded to infinity. -/
def overflow : ℚ := 2 ^ 1024 - 2 ^ 970

/-! ## Scaling -/

section Scaled

variable {base num den : ℕ} (hbase : 0 < base) (hden : 0 < den) (power : ℤ)

include hbase hden

lemma scaled_pos : 0 < (scaled base num den power).2 := by
  unfold scaled
  split
  · exact hden
  · exact Nat.mul_pos hden (Nat.pow_pos hbase)

/-- Scaling by a power multiplies the quotient by it. -/
lemma scaled_div : ((scaled base num den power).1 : ℚ) / (scaled base num den power).2
    = num / den * (base : ℚ) ^ power := by
  have hbase' : (base : ℚ) ≠ 0 := by exact_mod_cast hbase.ne'
  unfold scaled
  split
  · rename_i hpower
    obtain ⟨n, rfl⟩ := Int.eq_ofNat_of_zero_le hpower
    show ((num * base ^ n : ℕ) : ℚ) / den = _
    rw [Nat.cast_mul, Nat.cast_pow]
    show _ = num / den * (base : ℚ) ^ (n : ℤ)
    rw [zpow_natCast]
    ring
  · rename_i hpower
    obtain ⟨n, hn⟩ := Int.eq_ofNat_of_zero_le (Int.neg_nonneg.2 (Int.not_le.1 hpower).le)
    obtain rfl : power = -(n : ℤ) := by omega
    rw [neg_neg]
    show (num : ℚ) / ((den * base ^ n : ℕ) : ℚ) = _
    rw [Nat.cast_mul, Nat.cast_pow, zpow_neg, zpow_natCast]
    field_simp

end Scaled

/-! ## Exponents -/

/-- The powers of two around a natural. -/
lemma between_log2 {n : ℕ} (h : 0 < n) :
    (2 : ℚ) ^ (n.log2 : ℤ) ≤ n ∧ (n : ℚ) < 2 ^ ((n.log2 : ℤ) + 1) := by
  have hle := Nat.log2_self_le h.ne'
  have hlt := @Nat.lt_log2_self n
  refine ⟨?_, ?_⟩
  · rw [zpow_natCast]
    exact_mod_cast hle
  · rw [← Nat.cast_succ, zpow_natCast]
    exact_mod_cast hlt

/-- The difference of the exponents of both sides is at most one higher than that of the
quotient. -/
lemma div_between_log2 {num den : ℕ} (hnum : 0 < num) (hden : 0 < den) :
    (2 : ℚ) ^ ((num.log2 : ℤ) - den.log2 - 1) ≤ num / den ∧
      (num : ℚ) / den < 2 ^ ((num.log2 : ℤ) - den.log2 + 1) := by
  have hden' : (0 : ℚ) < den := by exact_mod_cast hden
  obtain ⟨hnumLe, hnumLt⟩ := between_log2 hnum
  obtain ⟨hdenLe, hdenLt⟩ := between_log2 hden
  set guess : ℤ := (num.log2 : ℤ) - den.log2 with hguess
  refine ⟨?_, ?_⟩
  · rw [le_div_iff₀ hden']
    calc (2 : ℚ) ^ (guess - 1) * den ≤ 2 ^ (guess - 1) * 2 ^ ((den.log2 : ℤ) + 1) := by gcongr
      _ = 2 ^ (num.log2 : ℤ) := by
        rw [← zpow_add₀ (by norm_num), hguess]
        congr 1
        ring
      _ ≤ num := hnumLe
  · rw [div_lt_iff₀ hden']
    calc (num : ℚ) < 2 ^ ((num.log2 : ℤ) + 1) := hnumLt
      _ = 2 ^ (guess + 1) * 2 ^ (den.log2 : ℤ) := by
        rw [← zpow_add₀ (by norm_num), hguess]
        congr 1
        ring
      _ ≤ 2 ^ (guess + 1) * den := by gcongr

/-- Comparing the scaled sides settles whether a power of two is above the quotient. -/
lemma scaled_le_iff {num den : ℕ} (hden : 0 < den) (exponent : ℤ) :
    (scaled 2 num den (-exponent)).2 ≤ (scaled 2 num den (-exponent)).1 ↔
      (2 : ℚ) ^ exponent ≤ num / den := by
  have hpos := @scaled_pos 2 num den (by norm_num) hden (-exponent)
  have hscaled := @scaled_div 2 num den (by norm_num) hden (-exponent)
  have hpos' : (0 : ℚ) < (scaled 2 num den (-exponent)).2 := by exact_mod_cast hpos
  have hcast : (scaled 2 num den (-exponent)).2 ≤ (scaled 2 num den (-exponent)).1 ↔
      (1 : ℚ) ≤ (scaled 2 num den (-exponent)).1 / (scaled 2 num den (-exponent)).2 := by
    rw [le_div_iff₀ hpos', one_mul]
    exact_mod_cast Iff.rfl
  rw [hcast, hscaled, zpow_neg, Nat.cast_ofNat, ← div_eq_mul_inv, le_div_iff₀ (by positivity),
    one_mul]

/-- The exponent of a quotient: the greatest power of two that is not above it. -/
lemma floorLog2_spec {num den : ℕ} (hnum : 0 < num) (hden : 0 < den) :
    (2 : ℚ) ^ floorLog2 num den ≤ num / den ∧
      (num : ℚ) / den < (2 : ℚ) ^ (floorLog2 num den + 1) := by
  obtain ⟨hlow, hhigh⟩ := div_between_log2 hnum hden
  have hcompare := @scaled_le_iff num den hden ((num.log2 : ℤ) - den.log2)
  unfold floorLog2
  simp only
  split
  · rename_i h
    exact ⟨hcompare.1 h, hhigh⟩
  · rename_i h
    rw [sub_add_cancel]
    exact ⟨hlow, not_le.1 fun hle => h (hcompare.2 hle)⟩

/-! ## Rounding -/

/-- A quotient below an even natural is rounded up to it from half a unit below it on. -/
lemma roundDiv_eq_iff {num den limit : ℕ} (hden : 0 < den) (heven : limit % 2 = 0)
    (hless : num < limit * den) :
    roundDiv num den = limit ↔ (2 * limit - 1) * den ≤ 2 * num := by
  have hquotient : num / den < limit := Nat.div_lt_of_lt_mul (by rwa [Nat.mul_comm])
  have hsplit := Nat.div_add_mod num den
  have hrest := Nat.mod_lt num hden
  set quotient := num / den
  set rest := num % den
  unfold roundDiv
  simp only
  -- only the last natural below the limit can be rounded up to it
  by_cases hlast : quotient + 1 = limit
  · have hlimit : (2 * limit - 1) * den = 2 * (den * quotient) + den := by
      rw [← hlast, show 2 * (quotient + 1) - 1 = 2 * quotient + 1 by omega]
      ring
    have hodd : quotient % 2 = 1 := by omega
    rw [hlimit, hodd]
    split
    · constructor
      · intro h
        omega
      · intro h
        omega
    · constructor
      · intro h
        omega
      · intro h
        split <;> omega
  · have hfar : 2 * (den * quotient) + 3 * den ≤ (2 * limit - 1) * den := by
      calc 2 * (den * quotient) + 3 * den = (2 * quotient + 3) * den := by ring
        _ ≤ (2 * limit - 1) * den := Nat.mul_le_mul_right _ (by omega)
    constructor
    · intro h
      have hup : roundDiv num den ≤ quotient + 1 := by
        unfold roundDiv
        simp only
        split
        · omega
        · split <;> omega
      unfold roundDiv at hup
      simp only at hup
      omega
    · intro h
      omega

/-! ## Quotients -/

section Ratio

variable {num den : ℕ}

/-- The exponent of the value that a quotient is rounded to, unless the significand is rounded up
to the next power of two. -/
def exponentOf (num den : ℕ) : ℤ := max (floorLog2 num den - 52) (-1074)

/-- The significand that a quotient is rounded to: below `2 ^ 53`, or rounded up to it. -/
def significandOf (num den : ℕ) : ℕ :=
  roundDiv (scaled 2 num den (-exponentOf num den)).1 (scaled 2 num den (-exponentOf num den)).2

/-- The significand and the exponent of the value that a quotient is rounded to. -/
def roundedOf (num den : ℕ) : ℕ × ℤ :=
  if significandOf num den = 2 ^ 53 then (2 ^ 52, exponentOf num den + 1)
  else (significandOf num den, exponentOf num den)

/-- The exponent is too large, or becomes so by a significand that is rounded up. -/
def Overflows (num den : ℕ) : Prop :=
  971 < exponentOf num den ∨ exponentOf num den = 971 ∧ significandOf num den = 2 ^ 53

lemma overflows_iff_lt : Overflows num den ↔ 971 < (roundedOf num den).2 := by
  unfold Overflows roundedOf
  by_cases hup : significandOf num den = 2 ^ 53
  · rw [if_pos hup]
    simp only [hup, and_true]
    omega
  · rw [if_neg hup]
    simp only [hup, and_false, or_false]

/-- A quotient is rounded to infinity if it overflows, and to a finite value if not. -/
lemma ofRatio_cases (negative : Bool) (hnum : num ≠ 0) :
    Overflows num den ∧ ofRatio negative num den = .infinite negative ∨
      ¬ Overflows num den ∧ ∃ m e, ofRatio negative num den = .finite negative m e := by
  have heq : ofRatio negative num den =
      if 971 < (roundedOf num den).2 then .infinite negative
      else .finite negative (roundedOf num den).1 (roundedOf num den).2 := by
    unfold ofRatio
    rw [if_neg hnum]
    rfl
  rw [heq, overflows_iff_lt]
  by_cases hlarge : 971 < (roundedOf num den).2
  · rw [if_pos hlarge]
    exact Or.inl ⟨hlarge, rfl⟩
  · rw [if_neg hlarge]
    exact Or.inr ⟨hlarge, _, _, rfl⟩

/-- A power of two in units of the half step at the end of the range. -/
lemma zpow_eq (k : ℕ) {e : ℤ} (h : e = k + 970) : (2 : ℚ) ^ e = 2 ^ k * 2 ^ 970 := by
  rw [h, zpow_add₀ (by norm_num), zpow_natCast]
  rfl

lemma overflow_eq : overflow = (2 ^ 54 - 1) * 2 ^ 970 := by
  have hsplit : (2 : ℚ) ^ 1024 = 2 ^ 54 * 2 ^ 970 := by rw [← pow_add]
  unfold overflow
  rw [hsplit, sub_mul, one_mul]

/-- At the greatest exponent, the significand is rounded up from the least magnitude on that is
rounded to infinity. -/
lemma significandOf_eq_iff (hden : 0 < den) (hhigh : (num : ℚ) / den < 2 ^ (1024 : ℤ))
    (hexponent : exponentOf num den = 971) :
    significandOf num den = 2 ^ 53 ↔ overflow ≤ (num : ℚ) / den := by
  have hpos := @scaled_pos 2 num den (by norm_num) hden (-971)
  have hscaled := @scaled_div 2 num den (by norm_num) hden (-971)
  have hpos' : (0 : ℚ) < (scaled 2 num den (-971)).2 := by exact_mod_cast hpos
  unfold significandOf
  rw [hexponent]
  set n := (scaled 2 num den (-971)).1
  set d := (scaled 2 num den (-971)).2
  -- at this exponent the quotient is counted in units of two to the 971st
  have hvalue : (num : ℚ) / den = n / d * 2 * 2 ^ 970 := by
    have hunit := zpow_eq 1 (show (971 : ℤ) = (1 : ℕ) + 970 by norm_num)
    rw [pow_one] at hunit
    rw [mul_assoc, ← hunit, hscaled, Nat.cast_ofNat, mul_assoc, ← zpow_add₀ (by norm_num)]
    norm_num
  have hless : n < 2 ^ 53 * d := by
    rw [hvalue, zpow_eq 54 (show (1024 : ℤ) = (54 : ℕ) + 970 by norm_num)] at hhigh
    have hhalf := lt_of_mul_lt_mul_right hhigh (by positivity)
    have hquotient : (n : ℚ) / d < 2 ^ 53 := by linarith
    rw [div_lt_iff₀ hpos'] at hquotient
    exact_mod_cast hquotient
  rw [roundDiv_eq_iff hpos (by norm_num) hless, hvalue, overflow_eq,
    mul_le_mul_iff_left₀ (by positivity), div_mul_eq_mul_div, le_div_iff₀ hpos',
    mul_comm (n : ℚ) 2]
  have hfactor : (2 : ℚ) ^ 54 - 1 = ((2 * 2 ^ 53 - 1 : ℕ) : ℚ) := by norm_num
  rw [hfactor]
  exact_mod_cast Iff.rfl

/-- A quotient overflows from the least magnitude on that is rounded to infinity. -/
lemma overflows_iff (hnum : 0 < num) (hden : 0 < den) :
    Overflows num den ↔ overflow ≤ (num : ℚ) / den := by
  obtain ⟨hlow, hhigh⟩ := floorLog2_spec hnum hden
  -- the threshold lies between the last two powers of two, so only the last exponent is left to
  -- compare the significand at
  have hbelow : (2 : ℚ) ^ (1023 : ℤ) ≤ overflow := by
    rw [overflow_eq, zpow_eq 53 (by norm_num)]
    gcongr
    norm_num
  have habove : overflow ≤ (2 : ℚ) ^ (1024 : ℤ) := by
    rw [overflow_eq, zpow_eq 54 (by norm_num)]
    gcongr
    norm_num
  have hlast : exponentOf num den = 971 →
      (significandOf num den = 2 ^ 53 ↔ overflow ≤ (num : ℚ) / den) := by
    intro hexponent
    have hlog : floorLog2 num den + 1 = 1024 := by
      unfold exponentOf at hexponent
      omega
    rw [hlog] at hhigh
    exact significandOf_eq_iff hden hhigh hexponent
  constructor
  · rintro (hlarge | ⟨hexponent, hup⟩)
    · have hlog : (1024 : ℤ) ≤ floorLog2 num den := by
        unfold exponentOf at hlarge
        omega
      exact habove.trans ((zpow_le_zpow_right₀ (by norm_num) hlog).trans hlow)
    · exact (hlast hexponent).1 hup
  · intro hoverflow
    have hlog : 1023 < floorLog2 num den + 1 :=
      (zpow_lt_zpow_iff_right₀ (by norm_num)).1 ((hbelow.trans hoverflow).trans_lt hhigh)
    by_cases hexponent : exponentOf num den = 971
    · exact Or.inr ⟨hexponent, (hlast hexponent).2 hoverflow⟩
    · left
      unfold exponentOf at hexponent ⊢
      omega

end Ratio

/-- The value is infinite if the magnitude is as large as what is rounded to infinity, and finite if
it is not; either has the sign. -/
def Fits (negative : Bool) (magnitude : ℚ) (x : Binary64) : Prop :=
  overflow ≤ magnitude ∧ x = .infinite negative ∨
    magnitude < overflow ∧ ∃ m e, x = .finite negative m e

lemma one_lt_overflow : 1 < overflow := by
  have hlarge : (1 : ℚ) ≤ 2 ^ 970 := one_le_pow₀ (by norm_num)
  calc (1 : ℚ) < (2 ^ 54 - 1) * 1 := by norm_num
    _ ≤ (2 ^ 54 - 1) * 2 ^ 970 := mul_le_mul_of_nonneg_left hlarge (by norm_num)
    _ = overflow := overflow_eq.symm

lemma fits_zero (negative : Bool) : Fits negative 0 (zero negative) :=
  Or.inr ⟨zero_lt_one.trans one_lt_overflow, _, _, rfl⟩

/-- A quotient is rounded to infinity or to a finite value, as its magnitude says. -/
theorem fits_ofRatio (negative : Bool) (num : ℕ) {den : ℕ} (hden : 0 < den) :
    Fits negative (num / den) (ofRatio negative num den) := by
  by_cases hnum : num = 0
  · rw [hnum, Nat.cast_zero, zero_div]
    exact fits_zero negative
  · rcases @ofRatio_cases num den negative hnum with ⟨hlarge, heq⟩ | ⟨hsmall, m, e, heq⟩
    · exact Or.inl ⟨(overflows_iff (Nat.pos_of_ne_zero hnum) hden).1 hlarge, heq⟩
    · refine Or.inr ⟨not_le.1 fun hle => hsmall ?_, m, e, heq⟩
      exact (overflows_iff (Nat.pos_of_ne_zero hnum) hden).2 hle

/-! ## Decimals -/

/-- A natural lies between two powers of ten that its digits tell. -/
lemma toDigits_spec {n : ℕ} (hn : n ≠ 0) :
    (10 : ℚ) ^ (((Nat.toDigits 10 n).length : ℤ) - 1) ≤ n ∧
      (n : ℚ) < 10 ^ ((Nat.toDigits 10 n).length : ℤ) := by
  have hpos := @Nat.length_toDigits_pos 10 n
  -- both bounds are the two directions of one equivalence, at neighbouring powers
  have hle : ∀ k, 0 < k → ((Nat.toDigits 10 n).length ≤ k ↔ n < 10 ^ k) :=
    fun k => Nat.length_toDigits_le_iff (by norm_num)
  obtain ⟨before, hbefore⟩ := Nat.exists_eq_add_of_lt hpos
  rw [Nat.zero_add] at hbefore
  rw [hbefore, Nat.cast_succ, add_sub_cancel_right, ← Nat.cast_succ, zpow_natCast, zpow_natCast]
  refine ⟨?_, ?_⟩
  · have hlow : 10 ^ before ≤ n := by
      by_cases hzero : before = 0
      · rw [hzero]
        exact Nat.pos_of_ne_zero hn
      · rw [← not_lt, ← hle before (Nat.pos_of_ne_zero hzero), hbefore]
        omega
    exact_mod_cast hlow
  · have hhigh := (hle (before + 1) (Nat.succ_pos _)).1 hbefore.le
    exact_mod_cast hhigh

/-- A decimal is read as infinity or as a finite value, as its magnitude says. -/
theorem fits_ofDecimal (negative : Bool) (digits : ℕ) (exponent : ℤ) :
    Fits negative (digits * 10 ^ exponent) (ofDecimal negative digits exponent) := by
  unfold ofDecimal
  by_cases hdigits : digits = 0
  · rw [if_pos hdigits, hdigits, Nat.cast_zero, zero_mul]
    exact fits_zero negative
  rw [if_neg hdigits]
  -- the number of digits bounds the magnitude from both sides, which settles the extreme
  -- exponents
  obtain ⟨hlow, hhigh⟩ := toDigits_spec hdigits
  simp only
  split
  · -- a decimal of so many places is far too large
    rename_i hplaces
    refine Or.inl ⟨?_, rfl⟩
    have hpower : (2 : ℚ) ^ 1024 ≤ 10 ^ (310 : ℤ) := by
      have hnat : 2 ^ 1024 ≤ 10 ^ 310 := by decide +kernel
      exact_mod_cast hnat
    calc overflow ≤ 2 ^ 1024 := sub_le_self _ (by positivity)
      _ ≤ 10 ^ (310 : ℤ) := hpower
      _ ≤ 10 ^ (((Nat.toDigits 10 digits).length : ℤ) - 1 + exponent) :=
        zpow_le_zpow_right₀ (by norm_num) (by omega)
      _ = 10 ^ (((Nat.toDigits 10 digits).length : ℤ) - 1) * 10 ^ exponent :=
        zpow_add₀ (by norm_num) _ _
      _ ≤ digits * 10 ^ exponent := by gcongr
  · split
    · rename_i hplaces
      refine Or.inr ⟨lt_trans ?_ one_lt_overflow, _, _, rfl⟩
      calc (digits : ℚ) * 10 ^ exponent
          < 10 ^ ((Nat.toDigits 10 digits).length : ℤ) * 10 ^ exponent := by gcongr
        _ = 10 ^ (((Nat.toDigits 10 digits).length : ℤ) + exponent) :=
          (zpow_add₀ (by norm_num) _ _).symm
        _ ≤ 10 ^ (0 : ℤ) := zpow_le_zpow_right₀ (by norm_num) (by omega)
        _ = 1 := zpow_zero _
    · have hscaled := @scaled_div 10 digits 1 (by norm_num) one_pos exponent
      rw [Nat.cast_one, div_one, Nat.cast_ofNat] at hscaled
      rw [← hscaled]
      exact fits_ofRatio negative _ (scaled_pos (by norm_num) one_pos exponent)

end SlideContract.Binary64
