import Questionnaire.Proofs.Number.Bits

/-!
# Whole numbers as floats

What becomes of a whole number that is made a float. Every number in reach of a counter of 64 bits gives a finite one.
A number with at most 53 significant bits is held exactly; the magnitude of a float without its fraction is such a
number, and goes through a float unchanged.
-/

namespace Questionnaire.Number

/-! ### The float nearest to a whole number -/

section Nearest
variable {n : Nat}

/-- The number over the last place of its mantissa of 53 bits. -/
def scaled (n : Nat) : Nat × Nat := scaleDown n 1 ((n.log2 : Int) - 52)

theorem scaled_of_le (h : 52 ≤ n.log2) : scaled n = (n, 2 ^ (n.log2 - 52)) := by
  have hexp : (n.log2 : Int) - 52 = .ofNat (n.log2 - 52) := by simp only [Int.ofNat_eq_natCast]; omega
  rw [scaled, hexp, scaleDown, Nat.one_mul, Nat.pow_eq]

theorem scaled_of_lt (h : n.log2 < 52) : scaled n = (n * 2 ^ (52 - n.log2), 1) := by
  have hexp : (n.log2 : Int) - 52 = .negSucc (52 - n.log2 - 1) := by omega
  have hsucc : 52 - n.log2 - 1 + 1 = 52 - n.log2 := by omega
  rw [scaled, hexp, scaleDown, hsucc, Nat.pow_eq]

theorem scaled_pos : 0 < (scaled n).2 := by
  rcases Nat.lt_or_ge n.log2 52 with hlog | hlog
  · rw [scaled_of_lt hlog]
    exact Nat.one_pos
  · rw [scaled_of_le hlog]
    exact Nat.two_pow_pos _

theorem le_scaled (h : n ≠ 0) : 2 ^ 52 * (scaled n).2 ≤ (scaled n).1 := by
  have hlow := Nat.log2_self_le h
  rcases Nat.lt_or_ge n.log2 52 with hlog | hlog
  · have hsum : n.log2 + (52 - n.log2) = 52 := by omega
    rw [scaled_of_lt hlog]
    calc 2 ^ 52 * 1 = 2 ^ n.log2 * 2 ^ (52 - n.log2) := by rw [← Nat.pow_add, hsum, Nat.mul_one]
      _ ≤ n * 2 ^ (52 - n.log2) := Nat.mul_le_mul_right _ hlow
  · rw [scaled_of_le hlog, ← Nat.pow_add, Nat.add_sub_cancel' hlog]
    exact hlow

theorem scaled_lt : (scaled n).1 < 2 ^ 53 * (scaled n).2 := by
  have hhigh := @Nat.lt_log2_self n
  rcases Nat.lt_or_ge n.log2 52 with hlog | hlog
  · have hsum : n.log2 + 1 + (52 - n.log2) = 53 := by omega
    rw [scaled_of_lt hlog]
    calc n * 2 ^ (52 - n.log2) < 2 ^ (n.log2 + 1) * 2 ^ (52 - n.log2) :=
          Nat.mul_lt_mul_of_pos_right hhigh (Nat.two_pow_pos _)
      _ = 2 ^ 53 * 1 := by rw [← Nat.pow_add, hsum, Nat.mul_one]
  · have hsum : 53 + (n.log2 - 52) = n.log2 + 1 := by omega
    rw [scaled_of_le hlog, ← Nat.pow_add, hsum]
    exact hhigh

theorem exponentFor_whole (h : n ≠ 0) : exponentFor n 1 = (n.log2 : Int) - 52 := by
  have hestimate : (n.log2 : Int) - ((1 : Nat).log2 : Nat) - 52 = (n.log2 : Int) - 52 := by
    rw [show (1 : Nat).log2 = 0 from rfl, Nat.cast_zero, Int.sub_zero]
  have hle : (scaled n).2 * 2 ^ 52 ≤ (scaled n).1 := Nat.mul_comm _ _ ▸ le_scaled h
  simp only [exponentFor, hestimate, Nat.pow_eq]
  rw [← scaled, if_pos hle]
  omega

theorem roundHalfEven_of_dvd {a b : Nat} (hb : 0 < b) (h : b ∣ a) : roundHalfEven a b = a / b := by
  simp only [roundHalfEven, Nat.mod_eq_zero_of_dvd h, Nat.mul_zero, hb, if_true]

theorem roundHalfEven_le (a b : Nat) : roundHalfEven a b ≤ a / b + 1 := by
  simp only [roundHalfEven]
  split
  · omega
  · split <;> omega

theorem nearestBits_eq (h : n ≠ 0) :
    nearestBits n 1 = min ((n.log2 + 1022) * 2 ^ 52 + roundHalfEven (scaled n).1 (scaled n).2) infinityBits := by
  have hexp : ((n.log2 : Int) - 52 + 1074).toNat = n.log2 + 1022 := by omega
  rw [nearestBits, if_neg h, exponentFor_whole h, roundedBits, hexp, Nat.pow_eq, scaled]

theorem log2_le_of_le (hn : n ≠ 0) (h : n ≤ 2 ^ 64) : n.log2 ≤ 64 :=
  Nat.le_of_lt_succ ((Nat.log2_lt hn).mpr (lt_of_le_of_lt h (Nat.pow_lt_pow_right Nat.one_lt_two (by omega))))

theorem nearestBits_lt (h : n ≤ 2 ^ 64) : nearestBits n 1 < infinityBits := by
  by_cases hn : n = 0
  · rw [hn, infinityBits_eq]
    exact Nat.mul_pos (by decide) (Nat.two_pow_pos _)
  · have hlog := log2_le_of_le hn h
    have hround := roundHalfEven_le (scaled n).1 (scaled n).2
    have hdiv := Nat.div_lt_of_lt_mul (Nat.mul_comm _ _ ▸ @scaled_lt n)
    rw [nearestBits_eq hn]
    refine lt_of_le_of_lt (min_le_left _ _) ?_
    rw [infinityBits_eq]
    omega

/-- A whole number in the range of 64 bits is a finite float. -/
theorem isFinite_ofInt {i : Int} (h : i.natAbs ≤ 2 ^ 64) : (ofInt i).isFinite :=
  isFinite_ofMagnitudeBits (nearestBits_lt h)

theorem ofInt_natCast : ofInt n = ofMagnitudeBits false (nearestBits n 1) := by
  have hsign : decide ((n : Int) < 0) = false := decide_eq_false (by omega)
  rw [ofInt, hsign, Int.natAbs_natCast]

theorem zero_le_ofInt (h : n ≤ 2 ^ 64) : (0.0 : Float) ≤ ofInt n := by
  rw [ofInt_natCast]
  exact zero_le_ofMagnitudeBits (nearestBits_lt h)

end Nearest

/-! ### Exact numbers -/

/-- The number has a mantissa of at most 53 bits, so that there is a float for it. -/
def IsExact (n : Nat) : Prop := ∃ m e, m < 2 ^ 53 ∧ n = m * 2 ^ e

theorem magnitude_mantissa_lt (x : Float) : (magnitude x).mantissa < 2 ^ 53 := by
  have hlt := Nat.mod_lt x.toBits.toNat (Nat.two_pow_pos 52)
  simp only [magnitude, Nat.pow_eq]
  split
  · exact hlt.trans (by omega)
  · simp only
    omega

/-- Without its fraction a magnitude is a number that a float holds. -/
theorem isExact_truncate (x : Float) : IsExact (truncate x) := by
  have hm := magnitude_mantissa_lt x
  unfold truncate
  split
  case h_1 m e heq =>
    rw [heq] at hm
    exact ⟨m, e, hm, by rw [Nat.pow_eq]⟩
  case h_2 m e heq =>
    rw [heq] at hm
    exact ⟨m / Nat.pow 2 (e + 1), 0, lt_of_le_of_lt (Nat.div_le_self _ _) hm, by rw [Nat.pow_zero, Nat.mul_one]⟩

/-- An exact number is a multiple of the last place of its mantissa. -/
theorem IsExact.dvd {n : Nat} (h : IsExact n) (hn : n ≠ 0) : (scaled n).2 ∣ (scaled n).1 := by
  rcases Nat.lt_or_ge n.log2 52 with hlog | hlog
  · rw [scaled_of_lt hlog]
    exact one_dvd _
  · rw [scaled_of_le hlog]
    obtain ⟨m, e, hm, heq⟩ := h
    have hle : n.log2 - 52 ≤ e := by
      by_contra hlt
      have hpow : 2 ^ (53 + e) ≤ 2 ^ n.log2 := Nat.pow_le_pow_right Nat.two_pos (by omega)
      rw [Nat.pow_add] at hpow
      have hsize := heq ▸ Nat.mul_lt_mul_of_pos_right hm (Nat.two_pow_pos e)
      have hlow := Nat.log2_self_le hn
      omega
    rw [heq]
    exact (Nat.pow_dvd_pow 2 (heq ▸ hle)).trans (Nat.dvd_mul_left _ _)

/-- The magnitude with a mantissa of 53 bits. -/
theorem magnitude_ofMagnitudeBits {negative : Bool} {e m : Nat} (he : e < 2045) (hlow : 2 ^ 52 ≤ m)
    (hhigh : m < 2 ^ 53) :
    magnitude (ofMagnitudeBits negative (e * 2 ^ 52 + m)) = ⟨m, (e : Int) - 1074⟩ := by
  have hbits : e * 2 ^ 52 + m < infinityBits := by
    rw [infinityBits_eq]
    omega
  have hexp : (e * 2 ^ 52 + m) / 2 ^ 52 = e + 1 := by omega
  have hfraction : (e * 2 ^ 52 + m) % 2 ^ 52 = m - 2 ^ 52 := by omega
  simp only [magnitude, exponentField, toBits_ofMagnitudeBits hbits, toNat_ofNat_signedBits hbits, Nat.pow_eq,
    signedBits_exponent hbits, signedBits_fraction, hexp, hfraction]
  rw [if_neg (by omega)]
  simp only [Dyadic.mk.injEq]
  omega

/-- The mantissa of an exact number, put back in its place. -/
theorem truncate_scaled {n : Nat} (h : (scaled n).2 ∣ (scaled n).1) {x : Float}
    (hx : magnitude x = ⟨(scaled n).1 / (scaled n).2, (n.log2 : Int) - 52⟩) : truncate x = n := by
  rcases Nat.lt_or_ge n.log2 52 with hlog | hlog
  · have hexp : (n.log2 : Int) - 52 = .negSucc (52 - n.log2 - 1) := by omega
    have hsucc : 52 - n.log2 - 1 + 1 = 52 - n.log2 := by omega
    rw [scaled_of_lt hlog, hexp] at hx
    simp only [truncate, hx, hsucc, Nat.pow_eq, Nat.div_one]
    exact Nat.mul_div_cancel _ (Nat.two_pow_pos _)
  · have hexp : (n.log2 : Int) - 52 = .ofNat (n.log2 - 52) := by simp only [Int.ofNat_eq_natCast]; omega
    rw [scaled_of_le hlog] at h
    rw [scaled_of_le hlog, hexp] at hx
    simp only [truncate, hx, Nat.pow_eq]
    exact Nat.div_mul_cancel h

theorem truncate_ofInt_zero : truncate (ofInt (0 : Nat)) = 0 := by
  have hbits : (ofInt (0 : Nat)).toBits.toNat = 0 := by
    rw [ofInt_natCast, show nearestBits 0 1 = 0 from rfl, toBits_ofMagnitudeBits (infinityBits_eq ▸ by omega)]
    rfl
  have hmagnitude : magnitude (ofInt (0 : Nat)) = ⟨0, .negSucc 1073⟩ := by
    simp only [magnitude, exponentField, hbits, Nat.zero_div, Nat.zero_mod, if_true]
    rfl
  simp only [truncate, hmagnitude, Nat.zero_div]

/-- An exact number in the range of 64 bits is made a float without rounding. -/
theorem truncate_ofInt {n : Nat} (h : IsExact n) (h64 : n ≤ 2 ^ 64) : truncate (ofInt n) = n := by
  by_cases hn : n = 0
  · subst hn
    exact truncate_ofInt_zero
  · have hlog := log2_le_of_le hn h64
    have hdvd := h.dvd hn
    have hlow : 2 ^ 52 ≤ (scaled n).1 / (scaled n).2 := (Nat.le_div_iff_mul_le scaled_pos).mpr (le_scaled hn)
    have hhigh : (scaled n).1 / (scaled n).2 < 2 ^ 53 := Nat.div_lt_of_lt_mul (Nat.mul_comm _ _ ▸ @scaled_lt n)
    have hbits : nearestBits n 1 = (n.log2 + 1022) * 2 ^ 52 + (scaled n).1 / (scaled n).2 := by
      rw [nearestBits_eq hn, roundHalfEven_of_dvd scaled_pos hdvd]
      refine min_eq_left ?_
      rw [infinityBits_eq]
      omega
    refine truncate_scaled hdvd ?_
    have hexp : ((n.log2 + 1022 : Nat) : Int) - 1074 = (n.log2 : Int) - 52 := by omega
    rw [ofInt_natCast, hbits, magnitude_ofMagnitudeBits (by omega) hlow hhigh, hexp]

end Questionnaire.Number
