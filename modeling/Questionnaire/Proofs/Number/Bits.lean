import Mathlib
import Questionnaire.Number.Binary

/-!
# The bits of a float

Magnitude bits below those of infinity are the bits of a finite float, whatever its sign. Floats without a sign are in
the order of their bits.
-/

namespace Questionnaire.Number

open Float.Model

/-! ### The bits of a float -/

section Bits
variable {negative : Bool} {bits : Nat}

/-- The bits of a float with its sign. -/
def signedBits (negative : Bool) (bits : Nat) : Nat := if negative then Nat.pow 2 63 + bits else bits

theorem infinityBits_eq : infinityBits = 2047 * 2 ^ 52 := rfl

theorem signedBits_lt (h : bits < infinityBits) : signedBits negative bits < 2 ^ 64 := by
  rw [infinityBits_eq] at h
  simp only [signedBits, Nat.pow_eq]
  split <;> omega

/-- The sign bit does not reach into the exponent. -/
theorem signedBits_exponent (h : bits < infinityBits) :
    signedBits negative bits / 2 ^ 52 % 2 ^ 11 = bits / 2 ^ 52 := by
  rw [infinityBits_eq] at h
  simp only [signedBits, Nat.pow_eq]
  split <;> omega

theorem signedBits_fraction : signedBits negative bits % 2 ^ 52 = bits % 2 ^ 52 := by
  simp only [signedBits, Nat.pow_eq]
  split <;> omega

theorem toNat_ofNat_signedBits (h : bits < infinityBits) :
    (UInt64.ofNat (signedBits negative bits)).toNat = signedBits negative bits := by
  rw [UInt64.toNat_ofNat', Nat.mod_eq_of_lt (signedBits_lt h)]

theorem toNat_unpackExponent (h : bits < infinityBits) : (@UnpackedFloat.unpackExponent Format.binary64
    (UInt64.ofNat (signedBits negative bits)).toBitVec).toNat = bits / 2 ^ 52 := by
  rw [UnpackedFloat.unpackExponent_def, BitVec.extractLsb'_toNat, Nat.shiftRight_eq_div_pow, UInt64.toNat_toBitVec,
    toNat_ofNat_signedBits h, signedBits_exponent h]

theorem toNat_unpackMantissa (h : bits < infinityBits) : (@UnpackedFloat.unpackMantissa Format.binary64
    (UInt64.ofNat (signedBits negative bits)).toBitVec).toNat = bits % 2 ^ 52 := by
  rw [UnpackedFloat.unpackMantissa_def, BitVec.extractLsb'_toNat, Nat.shiftRight_zero, UInt64.toNat_toBitVec,
    toNat_ofNat_signedBits h, signedBits_fraction]

/-- The exponent bits of a float below infinity are not all set. -/
theorem unpackExponent_ne (h : bits < infinityBits) :
    @UnpackedFloat.unpackExponent Format.binary64 (UInt64.ofNat (signedBits negative bits)).toBitVec
      ≠ -(BitVec.ofNat Format.binary64.exponentBits 1) := by
  intro heq
  have hexp := congrArg BitVec.toNat heq
  have hall : (-(BitVec.ofNat Format.binary64.exponentBits 1)).toNat = 2047 := by decide
  rw [toNat_unpackExponent h, hall] at hexp
  rw [infinityBits_eq] at h
  omega

theorem ofMagnitudeBits_eq :
    ofMagnitudeBits negative bits = Float.ofBits (UInt64.ofNat (signedBits negative bits)) := rfl

theorem toBits_ofMagnitudeBits (h : bits < infinityBits) :
    (ofMagnitudeBits negative bits).toBits = UInt64.ofNat (signedBits negative bits) := by
  have hnan : @UnpackedFloat.isNaNBits Format.binary64 (UInt64.ofNat (signedBits negative bits)).toBitVec = false :=
    decide_eq_false fun hall => unpackExponent_ne h hall.1
  rw [ofMagnitudeBits_eq]
  refine UInt64.toBitVec_inj.mp ((UnpackedFloat.pack_unpack _).trans ?_)
  rw [hnan, if_neg Bool.false_ne_true]

theorem isFinite_ofMagnitudeBits (h : bits < infinityBits) : (ofMagnitudeBits negative bits).isFinite := by
  have hread : (ofMagnitudeBits negative bits).isFinite
      = (UnpackedFloat.unpack Format.binary64 (ofMagnitudeBits negative bits).toBits.toBitVec).isFinite := rfl
  rw [hread, toBits_ofMagnitudeBits h, UnpackedFloat.unpack, if_neg (unpackExponent_ne h)]
  split
  · split <;> rfl
  · rfl

theorem unpackSign_ofMagnitudeBits (h : bits < infinityBits) :
    @UnpackedFloat.unpackSign Format.binary64 (UInt64.ofNat (signedBits false bits)).toBitVec = 0#1 := by
  refine BitVec.eq_of_toNat_eq ?_
  rw [UnpackedFloat.unpackSign_def, BitVec.extractLsb'_toNat, Nat.shiftRight_eq_div_pow, UInt64.toNat_toBitVec,
    toNat_ofNat_signedBits h]
  rw [infinityBits_eq] at h
  simp [signedBits]
  omega

end Bits

/-! ### The order of floats -/

section Order
variable {a b bits : Nat}

/-- The exponent field, where that of the numbers below all others counts as the least one. -/
def place (bits : Nat) : Nat := max (bits / 2 ^ 52) 1

/-- The mantissa at that place. -/
def mantissa (bits : Nat) : Nat := bits - (place bits - 1) * 2 ^ 52

theorem mantissa_of_field (h : 2 ^ 52 ≤ bits) :
    place bits = bits / 2 ^ 52 ∧ mantissa bits = 2 ^ 52 + bits % 2 ^ 52 := by
  rw [mantissa, place]
  omega

theorem mantissa_of_no_field (h : bits < 2 ^ 52) : place bits = 1 ∧ mantissa bits = bits := by
  rw [mantissa, place]
  omega

theorem place_mono (h : a ≤ b) : place a ≤ place b := max_le_max_right 1 (Nat.div_le_div_right h)

theorem mantissa_lt (h : a < b) (hplace : place a = place b) : mantissa a < mantissa b := by
  rw [mantissa, mantissa, hplace]
  refine Nat.sub_lt_sub_right ?_ h
  rw [← hplace, place]
  omega

theorem finite_congr {sign : UnpackedFloat.Sign} {m m' : Nat} {e e' : Int} (pos : 0 < m) (hm : m = m') (he : e = e') :
    ∃ pos', UnpackedFloat.finite sign m e pos = .finite sign m' e' pos' := by
  subst hm he
  exact ⟨pos, rfl⟩

/-- A finite float without a sign is zero, or its mantissa at its place. -/
theorem unpack_ofMagnitudeBits (h : bits < infinityBits) :
    bits = 0 ∧ (ofMagnitudeBits false bits).toModel.unpack = .zero .positive ∨
    ∃ pos, (ofMagnitudeBits false bits).toModel.unpack =
      .finite .positive (mantissa bits) ((place bits : Int) - 1075) pos := by
  have hread : (ofMagnitudeBits false bits).toModel.unpack =
      UnpackedFloat.unpack Format.binary64 (ofMagnitudeBits false bits).toBits.toBitVec := rfl
  have hfield := @toNat_unpackExponent false bits h
  have hfraction := @toNat_unpackMantissa false bits h
  have hbias : (Format.binary64.exponentBias + Format.binary64.mantissaBitsWithoutImplicit : Int) = 1075 := rfl
  rw [hread, toBits_ofMagnitudeBits h, UnpackedFloat.unpack, unpackSign_ofMagnitudeBits h,
    if_neg (unpackExponent_ne h)]
  split
  · rename_i hnone
    have hsmall : bits < 2 ^ 52 := by
      rw [hnone] at hfield
      have hzero : bits / 2 ^ 52 = 0 := hfield.symm
      omega
    obtain ⟨hplace, hmantissa⟩ := mantissa_of_no_field hsmall
    split
    · rename_i hnil
      rw [hnil] at hfraction
      have hzero : bits % 2 ^ 52 = 0 := hfraction.symm
      exact Or.inl ⟨by omega, rfl⟩
    · refine Or.inr (finite_congr _ ?_ ?_)
      · rw [hfraction, hmantissa, Nat.mod_eq_of_lt hsmall]
      · rw [hfield, hbias, hplace, Nat.div_eq_of_lt hsmall]
        rfl
  · rename_i hsome
    have hlarge : 2 ^ 52 ≤ bits := by
      by_contra hsmall
      refine hsome (BitVec.eq_of_toNat_eq ?_)
      rw [hfield, Nat.div_eq_of_lt (Nat.lt_of_not_ge hsmall)]
      rfl
    obtain ⟨hplace, hmantissa⟩ := mantissa_of_field hlarge
    refine Or.inr (finite_congr _ ?_ ?_)
    · rw [BitVec.toNat_append, hfraction, hmantissa,
        ← Nat.shiftLeft_add_eq_or_of_lt (Nat.mod_lt _ (Nat.two_pow_pos 52))]
      rfl
    · rw [hfield, hbias, hplace]

theorem compare_place_of_lt (h : a < b) :
    (compare ((place a : Int) - 1075) ((place b : Int) - 1075)).then (compare (mantissa a) (mantissa b)) = .lt := by
  rw [Ordering.then_eq_lt, Nat.compare_eq_lt]
  rcases Nat.lt_or_eq_of_le (place_mono h.le) with hplace | hplace
  · exact Or.inl (compare_lt_iff_lt.mpr (by omega))
  · exact Or.inr ⟨compare_eq_iff_eq.mpr (by rw [hplace]), mantissa_lt h hplace⟩

/-- Places come first, then mantissas. -/
theorem compare_place (a b : Nat) :
    (compare ((place a : Int) - 1075) ((place b : Int) - 1075)).then (compare (mantissa a) (mantissa b)) =
      compare a b := by
  rcases Nat.lt_trichotomy a b with h | rfl | h
  · rw [compare_place_of_lt h, Nat.compare_eq_lt.mpr h]
  · rw [Std.ReflOrd.compare_self, Std.ReflOrd.compare_self, Std.ReflOrd.compare_self]
    rfl
  · rw [Nat.compare_eq_gt.mpr h, Std.OrientedOrd.eq_swap, Std.OrientedOrd.eq_swap (a := mantissa a),
      ← Ordering.swap_then, compare_place_of_lt h]
    rfl

/-- Finite floats without a sign are in the order of their bits. -/
theorem compare_ofMagnitudeBits (ha : a < infinityBits) (hb : b < infinityBits) :
    (ofMagnitudeBits false a).toModel.unpack.compare (ofMagnitudeBits false b).toModel.unpack = some (compare a b) := by
  have bits_pos : ∀ {bits : Nat}, 0 < mantissa bits → 0 < bits := fun pos => Nat.lt_of_lt_of_le pos (Nat.sub_le _ _)
  rcases unpack_ofMagnitudeBits ha with ⟨rfl, hzero⟩ | ⟨pos, hfinite⟩
  · rcases unpack_ofMagnitudeBits hb with ⟨rfl, hzero'⟩ | ⟨pos', hfinite'⟩
    · rw [hzero]
      rfl
    · rw [hzero, hfinite', compare_lt_iff_lt.mpr (bits_pos pos')]
      rfl
  · rcases unpack_ofMagnitudeBits hb with ⟨rfl, hzero'⟩ | ⟨pos', hfinite'⟩
    · rw [hfinite, hzero', compare_gt_iff_gt.mpr (bits_pos pos)]
      rfl
    · rw [hfinite, hfinite', ← compare_place]
      rfl

theorem lt_ofMagnitudeBits_iff (ha : a < infinityBits) (hb : b < infinityBits) :
    ofMagnitudeBits false a < ofMagnitudeBits false b ↔ a < b := by
  have hread : ofMagnitudeBits false a < ofMagnitudeBits false b ↔
      (ofMagnitudeBits false a).toModel.unpack.lt (ofMagnitudeBits false b).toModel.unpack := decide_eq_true_iff
  rw [hread, UnpackedFloat.lt, compare_ofMagnitudeBits ha hb, ← compare_lt_iff_lt]
  simp

theorem le_ofMagnitudeBits_iff (ha : a < infinityBits) (hb : b < infinityBits) :
    ofMagnitudeBits false a ≤ ofMagnitudeBits false b ↔ a ≤ b := by
  have hread : ofMagnitudeBits false a ≤ ofMagnitudeBits false b ↔
      (ofMagnitudeBits false a).toModel.unpack.le (ofMagnitudeBits false b).toModel.unpack := decide_eq_true_iff
  rw [hread, UnpackedFloat.le, compare_ofMagnitudeBits ha hb, Option.any_some, Nat.isLE_compare]

/-- Without the sign bit a finite float is not below zero. -/
theorem zero_le_ofMagnitudeBits (h : bits < infinityBits) : (0.0 : Float) ≤ ofMagnitudeBits false bits := by
  have hzero : (0.0 : Float) = ofMagnitudeBits false 0 := by rfl
  rw [hzero, le_ofMagnitudeBits_iff (Nat.zero_lt_of_lt h) h]
  exact Nat.zero_le bits

theorem one_eq_ofMagnitudeBits : (1.0 : Float) = ofMagnitudeBits false (1023 * 2 ^ 52) := by rfl

end Order

end Questionnaire.Number
