import Questionnaire.Number.Literal
import Questionnaire.Proofs.Number.Ratio

/-!
# The range of finite floats

A quotient that lies less than half of the last place above the greatest float is rounded to a finite one. Decimals are
read in this range as finite floats, whether their digits are many or few; the short cut for decimals that leave the
range by their size alone does not cut off any that is in it.
-/

namespace Questionnaire.Number

/-- Half of the last place above the greatest float, where rounding begins to give infinity. -/
def overflow : ℚ := (2 ^ 53 - 1 / 2) * 2 ^ (971 : Int)

section
variable {num den : Nat} {e : Int}

theorem overflow_lt : overflow < 2 ^ (1024 : Int) := by
  have hsplit : (2 : ℚ) ^ (1024 : Int) = 2 ^ (53 : Int) * 2 ^ (971 : Int) := zpow_add₀ two_ne_zero 53 971
  rw [overflow, hsplit]
  gcongr
  norm_num

/-- In range a mantissa of 53 bits has the exponent of the greatest float at most. -/
theorem exponent_le_of_lt_overflow {q : ℚ} (hq : q < overflow) (he : e = -1074 ∨ (2 : ℚ) ^ 52 ≤ q / 2 ^ e) :
    e ≤ 971 := by
  rcases he with rfl | hlow
  · decide
  · have hpow : (2 : ℚ) ^ (52 + e) < 2 ^ (1024 : Int) := by
      rw [zpow_add₀ two_ne_zero]
      exact lt_of_le_of_lt ((le_div_iff₀ (by positivity)).mp hlow) (hq.trans overflow_lt)
    have hsum := (zpow_lt_zpow_iff_right₀ one_lt_two).mp hpow
    omega

/-- At the exponent of the greatest float the mantissa of a quotient in range does not carry. -/
theorem roundHalfEven_lt_of_lt {a b : Nat} (hb : 0 < b) (h : (a : ℚ) / b < 2 ^ 53 - 1 / 2) :
    roundHalfEven a b < 2 ^ 53 := by
  have herror := (abs_le.mp (roundHalfEven_error a hb)).2
  have hlt : (roundHalfEven a b : ℚ) < (2 ^ 53 : Nat) := by
    push_cast
    linarith
  exact_mod_cast hlt

theorem nearestBits_lt_of_lt_overflow (hden : 0 < den) (h : (num : ℚ) / den < overflow) :
    nearestBits num den < infinityBits := by
  by_cases hnum : num = 0
  · rw [nearestBits, if_pos hnum, infinityBits_eq]
    exact Nat.mul_pos (by decide) (Nat.two_pow_pos 52)
  obtain ⟨e, hexp, hleast, hhigh, hlow⟩ := exponentFor_spec hnum hden.ne'
  have hgreatest := exponent_le_of_lt_overflow h hlow
  have hd := scaleDown_pos num hden e
  have hsize : roundHalfEven (scaleDown num den e).1 (scaleDown num den e).2 ≤ 2 ^ 53 :=
    roundHalfEven_le_of_lt hd (by rw [scaleDown_div]; exact_mod_cast hhigh)
  rw [nearestBits, if_neg hnum, hexp, roundedBits, Nat.pow_eq]
  refine lt_of_le_of_lt (min_le_left _ _) ?_
  rw [infinityBits_eq]
  rcases Int.lt_or_eq_of_le hgreatest with hlt | rfl
  · omega
  · have hcarry : roundHalfEven (scaleDown num den 971).1 (scaleDown num den 971).2 < 2 ^ 53 := by
      refine roundHalfEven_lt_of_lt hd ?_
      rw [scaleDown_div, div_lt_iff₀ (by positivity)]
      exact h
    omega

end

/-! ### Decimals -/

section
variable {digits : Nat} {exponent : Int}

theorem pow_le_of_length (h : digits ≠ 0) : 10 ^ ((Nat.toDigits 10 digits).length - 1) ≤ digits := by
  rcases Nat.eq_zero_or_pos ((Nat.toDigits 10 digits).length - 1) with hzero | hpos
  · rw [hzero]
    exact Nat.one_le_iff_ne_zero.mpr h
  · by_contra hlt
    have hle := (Nat.length_toDigits_le_iff (by decide) hpos).mpr (Nat.not_le.mp hlt)
    omega

/-- The size of a decimal in range is within what is computed. -/
theorem size_le_of_lt_overflow (hdigits : digits ≠ 0) (h : (digits : ℚ) * 10 ^ exponent < overflow) :
    ((Nat.toDigits 10 digits).length : Int) + exponent ≤ 342 := by
  have hlength := @Nat.length_toDigits_pos 10 digits
  have hlow : (10 : ℚ) ^ ((Nat.toDigits 10 digits).length - 1) ≤ digits := by exact_mod_cast pow_le_of_length hdigits
  have hpow : (10 : ℚ) ^ ((((Nat.toDigits 10 digits).length - 1 : Nat) : Int) + exponent) < 10 ^ (342 : Int) := by
    rw [zpow_add₀ (by norm_num), zpow_natCast]
    calc (10 : ℚ) ^ ((Nat.toDigits 10 digits).length - 1) * 10 ^ exponent ≤ digits * 10 ^ exponent := by gcongr
      _ < 2 ^ (1024 : Int) := h.trans overflow_lt
      _ ≤ 2 ^ (3 * 342 : Int) := zpow_le_zpow_right₀ one_le_two (by norm_num)
      _ = (2 ^ (3 : Int)) ^ (342 : Int) := zpow_mul 2 3 342
      _ ≤ 10 ^ (342 : Int) := zpow_le_zpow_left₀ (by norm_num) (by norm_num) (by norm_num)
  have hsum := (zpow_lt_zpow_iff_right₀ (by norm_num)).mp hpow
  omega

/-- A decimal in range is read as a finite float. -/
theorem isFinite_ofDecimal (negative : Bool) (h : (digits : ℚ) * 10 ^ exponent < overflow) :
    (ofDecimal negative digits exponent).isFinite := by
  unfold ofDecimal
  refine isFinite_ofMagnitudeBits ?_
  split
  · rw [infinityBits_eq]
    exact Nat.mul_pos (by decide) (Nat.two_pow_pos 52)
  · rename_i hsmall
    have hdigits : digits ≠ 0 := fun hzero => hsmall (Or.inl hzero)
    have hsize := size_le_of_lt_overflow hdigits h
    rw [if_neg (by omega)]
    cases exponent with
    | ofNat e =>
      refine nearestBits_lt_of_lt_overflow Nat.one_pos ?_
      rw [Int.ofNat_eq_natCast, zpow_natCast] at h
      rw [Nat.pow_eq]
      push_cast
      rwa [div_one]
    | negSucc e =>
      refine nearestBits_lt_of_lt_overflow (Nat.pow_pos (by decide)) ?_
      rw [zpow_negSucc, ← div_eq_mul_inv] at h
      rw [Nat.pow_eq]
      exact_mod_cast h

end

end Questionnaire.Number
