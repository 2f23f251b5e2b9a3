import Questionnaire.Proofs.Number.Whole

/-!
# Ratios as floats

What becomes of a quotient below one that is made a float. Its mantissa is rounded at an exponent where it has 53 bits,
so that the float is off by half of the last place at most. It is between zero and one, and one itself is out of reach
as long as the quotient is not closer to one than that.
-/

namespace Questionnaire.Number

/-! ### Rounding a quotient -/

/-- The number that is taken apart. -/
def Dyadic.value (x : Dyadic) : ℚ := x.mantissa * 2 ^ x.exponent

section Rounding
variable {num den a b : Nat} {e : Int}

theorem scaleDown_pos (num : Nat) (h : 0 < den) (e : Int) : 0 < (scaleDown num den e).2 := by
  cases e with
  | ofNat e =>
    rw [scaleDown, Nat.pow_eq]
    exact Nat.mul_pos h (Nat.two_pow_pos e)
  | negSucc e => exact h

theorem scaleDown_div (num den : Nat) (e : Int) :
    ((scaleDown num den e).1 : ℚ) / (scaleDown num den e).2 = num / den / 2 ^ e := by
  cases e with
  | ofNat e =>
    rw [scaleDown, Int.ofNat_eq_natCast, zpow_natCast, div_div, Nat.pow_eq]
    push_cast
    rfl
  | negSucc e =>
    rw [scaleDown, zpow_negSucc, div_inv_eq_mul, Nat.pow_eq]
    push_cast
    ring

/-- The quotient at the exponent that is estimated from the lengths of its parts. -/
theorem div_estimate (hnum : num ≠ 0) (hden : den ≠ 0) :
    (2 : ℚ) ^ 51 < num / den / 2 ^ ((num.log2 : Int) - den.log2 - 52) ∧
      num / den / (2 : ℚ) ^ ((num.log2 : Int) - den.log2 - 52) < 2 ^ 53 := by
  have hden' : (0 : ℚ) < den := by exact_mod_cast Nat.pos_of_ne_zero hden
  have hnumlow : (2 : ℚ) ^ num.log2 ≤ num := by exact_mod_cast Nat.log2_self_le hnum
  have hnumhigh : (num : ℚ) < 2 ^ (num.log2 + 1) := by exact_mod_cast Nat.lt_log2_self
  have hdenlow : (2 : ℚ) ^ den.log2 ≤ den := by exact_mod_cast Nat.log2_self_le hden
  have hdenhigh : (den : ℚ) < 2 ^ (den.log2 + 1) := by exact_mod_cast Nat.lt_log2_self
  have hpow : (2 : ℚ) ^ ((num.log2 : Int) - den.log2 - 52) * 2 ^ den.log2 * 2 ^ 52 = 2 ^ num.log2 := by
    rw [zpow_sub₀ two_ne_zero, zpow_sub₀ two_ne_zero, zpow_natCast, zpow_natCast]
    field_simp
  have hpos : (0 : ℚ) < 2 ^ ((num.log2 : Int) - den.log2 - 52) := by positivity
  generalize (2 : ℚ) ^ ((num.log2 : Int) - den.log2 - 52) = unit at hpow hpos
  rw [div_div, lt_div_iff₀ (by positivity), div_lt_iff₀ (by positivity)]
  rw [pow_succ] at hnumhigh hdenhigh
  constructor
  · calc (2 : ℚ) ^ 51 * (den * unit) < 2 ^ 51 * (2 ^ den.log2 * 2 * unit) := by gcongr
      _ = 2 ^ num.log2 := by rw [← hpow]; ring
      _ ≤ num := hnumlow
  · calc (num : ℚ) < 2 ^ num.log2 * 2 := hnumhigh
      _ = 2 ^ 53 * (2 ^ den.log2 * unit) := by rw [← hpow]; ring
      _ ≤ 2 ^ 53 * (den * unit) := by gcongr

theorem exponentFor_eq (hnum : num ≠ 0) (hden : den ≠ 0) : ∃ e : Int, exponentFor num den = max e (-1074) ∧
    (2 : ℚ) ^ 52 ≤ num / den / 2 ^ e ∧ num / den / (2 : ℚ) ^ e < 2 ^ 53 := by
  obtain ⟨hlow, hhigh⟩ := div_estimate hnum hden
  have htest : (scaleDown num den ((num.log2 : Int) - den.log2 - 52)).2 * Nat.pow 2 52 ≤
      (scaleDown num den ((num.log2 : Int) - den.log2 - 52)).1 ↔
      (2 : ℚ) ^ 52 ≤ num / den / 2 ^ ((num.log2 : Int) - den.log2 - 52) := by
    have hpos : (0 : ℚ) < (scaleDown num den ((num.log2 : Int) - den.log2 - 52)).2 := by
      exact_mod_cast scaleDown_pos num (Nat.pos_of_ne_zero hden) _
    rw [← scaleDown_div, le_div_iff₀ hpos, Nat.pow_eq, Nat.mul_comm]
    exact_mod_cast Iff.rfl
  simp only [exponentFor, htest]
  split
  · rename_i hfits
    exact ⟨_, rfl, hfits, hhigh⟩
  · rename_i hshort
    have hdouble : (num : ℚ) / den / 2 ^ ((num.log2 : Int) - den.log2 - 52 - 1) =
        2 * (num / den / 2 ^ ((num.log2 : Int) - den.log2 - 52)) := by
      rw [zpow_sub_one₀ two_ne_zero]
      field_simp
    refine ⟨_, rfl, ?_, ?_⟩
    · rw [hdouble]
      linarith
    · rw [hdouble]
      linarith

/-- The exponent is the least one of all, or gives the quotient a mantissa of 53 bits. -/
theorem exponentFor_spec (hnum : num ≠ 0) (hden : den ≠ 0) : ∃ e : Int, exponentFor num den = e ∧ -1074 ≤ e ∧
    num / den / (2 : ℚ) ^ e < 2 ^ 53 ∧ (e = -1074 ∨ (2 : ℚ) ^ 52 ≤ num / den / 2 ^ e) := by
  obtain ⟨e, hexp, hlow, hhigh⟩ := exponentFor_eq hnum hden
  refine ⟨_, hexp, le_max_right _ _, ?_, ?_⟩
  · refine lt_of_le_of_lt ?_ hhigh
    gcongr
    · exact one_le_two
    · exact le_max_left _ _
  · rcases max_choice e (-1074) with heq | heq
    · rw [heq]
      exact Or.inr hlow
    · exact Or.inl heq

theorem div_eq_floor_add (a : Nat) (hb : 0 < b) : (a : ℚ) / b = (a / b : Nat) + (a % b : Nat) / b := by
  have hb' : (b : ℚ) ≠ 0 := by exact_mod_cast hb.ne'
  have hsum : (a : ℚ) = b * (a / b : Nat) + (a % b : Nat) := by exact_mod_cast (Nat.div_add_mod a b).symm
  rw [hsum, add_div, mul_div_cancel_left₀ _ hb']

/-- Rounding a quotient is off by a half at most. -/
theorem roundHalfEven_error (a : Nat) (hb : 0 < b) : |(roundHalfEven a b : ℚ) - a / b| ≤ 1 / 2 := by
  have hb' : (0 : ℚ) < b := by exact_mod_cast hb
  rw [div_eq_floor_add a hb, roundHalfEven]
  have hrest : (0 : ℚ) ≤ (a % b : Nat) / b := by positivity
  have hless : ((a % b : Nat) : ℚ) / b < 1 := (div_lt_one hb').mpr (by exact_mod_cast Nat.mod_lt a hb)
  generalize a / b = floor at *
  generalize a % b = rest at *
  split
  · rename_i hlow
    have hhalf : (rest : ℚ) / b < 1 / 2 := by
      rw [div_lt_div_iff₀ hb' two_pos]
      exact_mod_cast (by omega : rest * 2 < 1 * b)
    rw [abs_le]
    constructor <;> linarith
  · split
    · rename_i hhigh
      have hhalf : 1 / 2 < (rest : ℚ) / b := by
        rw [div_lt_div_iff₀ two_pos hb']
        exact_mod_cast (by omega : 1 * b < rest * 2)
      push_cast
      rw [abs_le]
      constructor <;> linarith
    · -- A tie: the floor or the number after it, whichever is even.
      rename_i hnot hnot'
      have hhalf : (rest : ℚ) / b = 1 / 2 := by
        rw [div_eq_div_iff hb'.ne' two_ne_zero]
        exact_mod_cast (by omega : rest * 2 = 1 * b)
      rw [hhalf]
      rcases Nat.mod_two_eq_zero_or_one floor with heven | hodd
      · rw [heven, abs_le]
        push_cast
        constructor <;> linarith
      · rw [hodd, abs_le]
        push_cast
        constructor <;> linarith

theorem roundHalfEven_le_of_lt {n : Nat} (hb : 0 < b) (h : (a : ℚ) / b < n) : roundHalfEven a b ≤ n := by
  have hb' : (0 : ℚ) < b := by exact_mod_cast hb
  have hlt : a < n * b := by exact_mod_cast (div_lt_iff₀ hb').mp h
  exact (roundHalfEven_le a b).trans (Nat.div_lt_of_lt_mul (Nat.mul_comm _ _ ▸ hlt))

theorem le_roundHalfEven_of_le {n : Nat} (hb : 0 < b) (h : (n : ℚ) ≤ a / b) : n ≤ roundHalfEven a b := by
  have hb' : (0 : ℚ) < b := by exact_mod_cast hb
  have hle : n * b ≤ a := by exact_mod_cast (le_div_iff₀ hb').mp h
  have hfloor : n ≤ a / b := (Nat.le_div_iff_mul_le hb).mpr hle
  rw [roundHalfEven]
  split
  · exact hfloor
  · split <;> omega

theorem exponent_le_of_lt_one {q : ℚ} (hq : q < 1) (he : e = -1074 ∨ (2 : ℚ) ^ 52 ≤ q / 2 ^ e) : e ≤ -53 := by
  rcases he with rfl | hlow
  · decide
  · have hpow : (2 : ℚ) ^ (52 + e) < 2 ^ (0 : Int) := by
      rw [zpow_add₀ two_ne_zero, zpow_zero]
      exact lt_of_le_of_lt ((le_div_iff₀ (by positivity)).mp hlow) hq
    have hsum := (zpow_lt_zpow_iff_right₀ one_lt_two).mp hpow
    omega

/-- Half of the last place, where this is small. -/
theorem error_of_exponent_le {q : ℚ} {m : Nat} (he : e ≤ -53) (h : |(m : ℚ) - q / 2 ^ e| ≤ 1 / 2) :
    |(m : ℚ) * 2 ^ e - q| ≤ 1 / 2 ^ 54 := by
  have hunit : (0 : ℚ) < 2 ^ e := by positivity
  have hlast : (2 : ℚ) ^ e ≤ 2 ^ (-53 : Int) := zpow_le_zpow_right₀ one_le_two he
  have hscale : (m : ℚ) * 2 ^ e - q = (m - q / 2 ^ e) * 2 ^ e := by
    field_simp
  calc |(m : ℚ) * 2 ^ e - q| = |(m : ℚ) - q / 2 ^ e| * 2 ^ e := by rw [hscale, abs_mul, abs_of_pos hunit]
    _ ≤ 1 / 2 * 2 ^ (-53 : Int) := by gcongr
    _ = 1 / 2 ^ 54 := by norm_num

/-- The bits of a quotient below one: a mantissa at a place that is put together so that a mantissa of 54 bits carries,
and off by half of the last place. -/
theorem nearestBits_of_lt (h : num < den) : ∃ k m : Nat, nearestBits num den = k * 2 ^ 52 + m ∧
    k ≤ 1021 ∧ m ≤ 2 ^ 53 ∧ (k = 0 ∨ 2 ^ 52 ≤ m) ∧
    |(m : ℚ) * 2 ^ ((k : Int) - 1074) - num / den| ≤ 1 / 2 ^ 54 := by
  by_cases hnum : num = 0
  · subst hnum
    exact ⟨0, 0, rfl, by simp⟩
  have hden : 0 < den := Nat.zero_lt_of_lt h
  have hone : (num : ℚ) / den < 1 := (div_lt_one (by exact_mod_cast hden)).mpr (by exact_mod_cast h)
  obtain ⟨e, hexp, hleast, hhigh, hlow⟩ := exponentFor_spec hnum hden.ne'
  have hbelow := exponent_le_of_lt_one hone hlow
  have hd := scaleDown_pos num hden e
  have herror := roundHalfEven_error (scaleDown num den e).1 hd
  have hsize : roundHalfEven (scaleDown num den e).1 (scaleDown num den e).2 ≤ 2 ^ 53 :=
    roundHalfEven_le_of_lt hd (by rw [scaleDown_div]; exact_mod_cast hhigh)
  have hplace : (((e + 1074).toNat : Nat) : Int) - 1074 = e := by omega
  refine ⟨(e + 1074).toNat, roundHalfEven (scaleDown num den e).1 (scaleDown num den e).2, ?_, by omega, hsize, ?_, ?_⟩
  · rw [nearestBits, if_neg hnum, hexp, roundedBits, Nat.pow_eq]
    refine min_eq_left ?_
    rw [infinityBits_eq]
    omega
  · rcases hlow with rfl | hlow
    · exact Or.inl rfl
    · exact Or.inr (le_roundHalfEven_of_le hd (by rw [scaleDown_div]; exact_mod_cast hlow))
  · rw [scaleDown_div] at herror
    rw [hplace]
    exact error_of_exponent_le hbelow herror

/-! ### A ratio below one -/

/-- The value of the float with that mantissa at that place. -/
theorem value_ofMagnitudeBits {k m : Nat} (hk : k ≤ 1021) (hm : m ≤ 2 ^ 53) (hlow : k = 0 ∨ 2 ^ 52 ≤ m) :
    (magnitude (ofMagnitudeBits false (k * 2 ^ 52 + m))).value = m * 2 ^ ((k : Int) - 1074) := by
  rcases Nat.lt_or_ge m (2 ^ 52) with hsmall | hnormal
  · obtain rfl : k = 0 := hlow.resolve_right (Nat.not_le.mpr hsmall)
    have hbits : 0 * 2 ^ 52 + m < infinityBits := by
      rw [infinityBits_eq]
      omega
    have hfield : (0 * 2 ^ 52 + m) / 2 ^ 52 = 0 := by omega
    have hfraction : (0 * 2 ^ 52 + m) % 2 ^ 52 = m := by omega
    simp only [magnitude, exponentField, toBits_ofMagnitudeBits hbits, toNat_ofNat_signedBits hbits, Nat.pow_eq,
      signedBits_exponent hbits, signedBits_fraction, hfield, hfraction, if_true]
    rfl
  · rcases Nat.lt_or_eq_of_le hm with hlt | rfl
    · rw [magnitude_ofMagnitudeBits (by omega) hnormal hlt]
      rfl
    · -- The mantissa has carried: it is that of the next place.
      have hcarry : k * 2 ^ 52 + 2 ^ 53 = (k + 1) * 2 ^ 52 + 2 ^ 52 := by omega
      rw [hcarry, magnitude_ofMagnitudeBits (by omega) le_rfl (by norm_num), Dyadic.value, Nat.cast_succ,
        add_sub_right_comm, zpow_add_one₀ two_ne_zero]
      push_cast
      ring

/-- The float nearest to a ratio below one is as good as equal to it. -/
theorem ofRatio_near (h : num < den) : |(magnitude (ofRatio num den)).value - num / den| ≤ 1 / 2 ^ 54 := by
  obtain ⟨k, m, hbits, hk, hm, hlow, herror⟩ := nearestBits_of_lt h
  rw [ofRatio, hbits, value_ofMagnitudeBits hk hm hlow]
  exact herror

theorem nearestBits_le_one (h : num < den) : nearestBits num den ≤ 1023 * 2 ^ 52 := by
  obtain ⟨k, m, hbits, hk, hm, -⟩ := nearestBits_of_lt h
  omega

/-- Only a ratio that is closer to one than half of the last place becomes one. -/
theorem nearestBits_lt_one (h : num < den) (hden : den < 2 ^ 54) : nearestBits num den < 1023 * 2 ^ 52 := by
  obtain ⟨k, m, hbits, hk, hm, -, herror⟩ := nearestBits_of_lt h
  rw [hbits]
  rcases Nat.lt_or_eq_of_le hk with hlt | rfl
  · omega
  · rcases Nat.lt_or_eq_of_le hm with hlt | rfl
    · omega
    · -- The float would be one, and the ratio is further from it than the float can be off.
      have hden' : (0 : ℚ) < den := by exact_mod_cast Nat.zero_lt_of_lt h
      have hratio : (num : ℚ) / den ≤ 1 - 1 / den := by
        rw [div_le_iff₀ hden', sub_mul, one_mul, div_mul_cancel₀ _ hden'.ne', le_sub_iff_add_le]
        exact_mod_cast h
      have hgap : (1 : ℚ) / 2 ^ 54 < 1 / den := one_div_lt_one_div_of_lt hden' (by exact_mod_cast hden)
      have hone : ((2 ^ 53 : Nat) : ℚ) * 2 ^ (((1021 : Nat) : Int) - 1074) = 1 := by norm_num
      rw [hone, abs_le] at herror
      linarith

theorem ofRatio_order (h : num < den) :
    (0.0 : Float) ≤ ofRatio num den ∧ ofRatio num den ≤ 1.0 ∧ (den < 2 ^ 54 → ofRatio num den < 1.0) := by
  have hone : 1023 * 2 ^ 52 < infinityBits := by
    rw [infinityBits_eq]
    omega
  have hbits := lt_of_le_of_lt (nearestBits_le_one h) hone
  rw [ofRatio, one_eq_ofMagnitudeBits, le_ofMagnitudeBits_iff hbits hone, lt_ofMagnitudeBits_iff hbits hone]
  exact ⟨zero_le_ofMagnitudeBits hbits, nearestBits_le_one h, nearestBits_lt_one h⟩

end Rounding

end Questionnaire.Number
