import Questionnaire.Number.Notation
import Questionnaire.Proofs.Number.Range
import Questionnaire.Proofs.Text.Trim

/-!
# Numbers written and read

The digits that a finite float is written with lie in the interval of those that round to it, so they are in the range
of finite floats. Written out around a point they are read as the number that they are; that is how every finite float
that is written is read as a finite one.
-/

namespace Questionnaire.Number

open Float.Model

/-! ### The fields of a finite float -/

section
variable {x : Float}

theorem exponentField_lt (h : x.isFinite = true) : exponentField x < 2047 := by
  have hread : x.isFinite = (UnpackedFloat.unpack Format.binary64 x.toBits.toBitVec).isFinite := rfl
  have hfield : (@UnpackedFloat.unpackExponent Format.binary64 x.toBits.toBitVec).toNat = exponentField x := by
    rw [UnpackedFloat.unpackExponent_def, BitVec.extractLsb'_toNat, Nat.shiftRight_eq_div_pow, UInt64.toNat_toBitVec,
      exponentField]
    rfl
  have hne : exponentField x ≠ 2047 := by
    intro hall
    have hones : @UnpackedFloat.unpackExponent Format.binary64 x.toBits.toBitVec
        = -(BitVec.ofNat Format.binary64.exponentBits 1) := BitVec.eq_of_toNat_eq (hfield.trans hall)
    rw [hread, UnpackedFloat.unpack, if_pos hones] at h
    split at h <;> cases h
  have hlt : exponentField x < 2 ^ 11 := Nat.mod_lt _ (Nat.two_pow_pos 11)
  omega

theorem isNaN_of_isFinite (h : x.isFinite = true) : x.isNaN = false := by
  have hread : x.isFinite = x.toModel.unpack.isFinite := rfl
  have hnan : x.isNaN = x.toModel.unpack.isNaN := rfl
  rw [hread] at h
  rw [hnan]
  cases hx : x.toModel.unpack with
  | notANumber =>
    rw [hx] at h
    cases h
  | _ => rfl

theorem magnitude_exponent_le (h : x.isFinite = true) : (magnitude x).exponent ≤ 971 := by
  have hfield := exponentField_lt h
  simp only [magnitude]
  split
  · simp only
    omega
  · simp only
    omega

end

/-! ### The digits of a float -/

namespace Ratio

def value (r : Ratio) : ℚ := r.num / r.den

variable {a b : Ratio} {n base : Nat} {e : Int}

theorem power_den_pos (hbase : 0 < base) (e : Int) : 0 < (power n base e).den := by
  cases e with
  | ofNat e => exact Nat.one_pos
  | negSucc e => exact Nat.pow_pos hbase

theorem value_power (n base : Nat) (e : Int) : (power n base e).value = n * (base : ℚ) ^ e := by
  cases e with
  | ofNat e =>
    rw [power, value, Int.ofNat_eq_natCast, zpow_natCast, Nat.pow_eq]
    push_cast
    rw [div_one]
  | negSucc e =>
    rw [power, value, zpow_negSucc, ← div_eq_mul_inv, Nat.pow_eq]
    push_cast
    rfl

theorem le_iff (ha : 0 < a.den) (hb : 0 < b.den) : a.le b = true ↔ a.value ≤ b.value := by
  rw [le, decide_eq_true_iff, value, value, div_le_div_iff₀ (by exact_mod_cast ha) (by exact_mod_cast hb)]
  exact_mod_cast Iff.rfl

theorem lt_iff (ha : 0 < a.den) (hb : 0 < b.den) : a.lt b = true ↔ a.value < b.value := by
  rw [lt, decide_eq_true_iff, value, value, div_lt_div_iff₀ (by exact_mod_cast ha) (by exact_mod_cast hb)]
  exact_mod_cast Iff.rfl

theorem floorDiv_le (a b : Ratio) : (a.floorDiv b : ℚ) ≤ a.value / b.value := by
  have hquotient : a.value / b.value = (a.num * b.den : Nat) / (a.den * b.num : Nat) := by
    rw [value, value, div_div_div_eq]
    push_cast
    rfl
  rw [hquotient, floorDiv]
  exact Nat.cast_div_le

end Ratio

def Decimal.value (d : Decimal) : ℚ := d.digits * 10 ^ d.exponent

section
variable {x : Float} {n : Neighbourhood} {d : Decimal} {e : Int}

theorem value_high (x : Float) :
    (neighbourhood x).high.value = ((magnitude x).mantissa + 1 / 2) * 2 ^ (magnitude x).exponent := by
  rw [neighbourhood, Ratio.value_power, zpow_sub₀ (by norm_num)]
  push_cast
  ring

theorem value_value (x : Float) :
    (neighbourhood x).value.value = (magnitude x).mantissa * 2 ^ (magnitude x).exponent := by
  rw [neighbourhood, Ratio.value_power]
  rfl

theorem contains_of_onGrid (h : onGrid n e = some d) : n.contains (.power d.digits 10 d.exponent) = true := by
  simp only [onGrid] at h
  split at h
  · rename_i hbelow habove
    obtain rfl := Option.some.inj h
    simp only
    split
    · exact hbelow
    · exact habove
  · rename_i hbelow _
    obtain rfl := Option.some.inj h
    exact hbelow
  · rename_i _ habove
    obtain rfl := Option.some.inj h
    exact habove
  · cases h

/-- No float has a greater last place than that of the greatest one. -/
theorem mul_unit_le (hx : x.isFinite = true) {q c : ℚ} (hq : 0 ≤ q) (h : q ≤ c) :
    q * 2 ^ (magnitude x).exponent ≤ c * 2 ^ (971 : Int) :=
  mul_le_mul h (zpow_le_zpow_right₀ one_le_two (magnitude_exponent_le hx)) (by positivity) (hq.trans h)

/-- The upper end of the interval is in range, or it is where the range ends and does not belong to the interval. -/
theorem value_lt_overflow_of_contains (hx : x.isFinite = true) {r : Ratio} (hr : 0 < r.den)
    (h : (neighbourhood x).contains r = true) : r.value < overflow := by
  have hmantissa : (magnitude x).mantissa < 2 ^ 53 := magnitude_mantissa_lt x
  have hhigh : 0 < (neighbourhood x).high.den := Ratio.power_den_pos Nat.two_pos _
  rw [Neighbourhood.contains] at h
  split at h
  · rename_i hclosed
    rw [Bool.and_eq_true, Ratio.le_iff hr hhigh, value_high] at h
    have heven : (magnitude x).mantissa % 2 = 0 := by simpa [neighbourhood] using hclosed
    have hlast : ((magnitude x).mantissa : ℚ) ≤ 2 ^ 53 - 2 := by
      have hle : (magnitude x).mantissa + 2 ≤ 2 ^ 53 := by omega
      have hcast : ((magnitude x).mantissa : ℚ) + 2 ≤ 2 ^ 53 := by exact_mod_cast hle
      linarith
    calc r.value ≤ ((magnitude x).mantissa + 1 / 2) * 2 ^ (magnitude x).exponent := h.2
      _ ≤ (2 ^ 53 - 2 + 1 / 2) * 2 ^ (971 : Int) := mul_unit_le hx (by positivity) (by linarith)
      _ < overflow := by rw [overflow]; gcongr; norm_num
  · rw [Bool.and_eq_true, Ratio.lt_iff hr hhigh, value_high] at h
    have hlast : ((magnitude x).mantissa : ℚ) ≤ 2 ^ 53 - 1 := by
      have hcast : ((magnitude x).mantissa : ℚ) + 1 ≤ 2 ^ 53 := by exact_mod_cast hmantissa
      linarith
    calc r.value < ((magnitude x).mantissa + 1 / 2) * 2 ^ (magnitude x).exponent := h.2
      _ ≤ (2 ^ 53 - 1 + 1 / 2) * 2 ^ (971 : Int) := mul_unit_le hx (by positivity) (by linarith)
      _ = overflow := by rw [overflow]; ring

theorem value_lt_overflow (hx : x.isFinite = true) : (neighbourhood x).value.value < overflow := by
  have hmantissa : ((magnitude x).mantissa : ℚ) + 1 ≤ 2 ^ 53 := by exact_mod_cast magnitude_mantissa_lt x
  calc (neighbourhood x).value.value = (magnitude x).mantissa * 2 ^ (magnitude x).exponent := value_value x
    _ ≤ (2 ^ 53 - 1) * 2 ^ (971 : Int) := mul_unit_le hx (by positivity) (by linarith)
    _ < overflow := by rw [overflow]; gcongr; norm_num

theorem value_strip (d : Decimal) : d.strip.value = d.value := by
  rw [Decimal.strip]
  induction List.range 20 generalizing d with
  | nil => rfl
  | cons i rest ih =>
    rw [List.foldl_cons, ih]
    split
    · rename_i hzero
      have hdigits : d.digits % 10 = 0 := by
        rw [Bool.and_eq_true, beq_iff_eq] at hzero
        exact hzero.1
      have hten : (d.digits : ℚ) = (d.digits / 10 : Nat) * 10 := by
        exact_mod_cast (Nat.div_mul_cancel (Nat.dvd_of_mod_eq_zero hdigits)).symm
      rw [Decimal.value, Decimal.value, hten, zpow_add_one₀ (by norm_num)]
      ring
    · rfl

/-- The decimal that a finite float is written as is in range. -/
theorem value_shortest_lt (hx : x.isFinite = true) : (shortest x).value < overflow := by
  simp only [shortest]
  rw [value_strip]
  cases hfound : (List.range 17).findSome? fun (i : Nat) => onGrid (neighbourhood x)
      (decimalScale (neighbourhood x).value - i - 1) with
  | some d =>
    obtain ⟨i, -, hd⟩ := List.exists_of_findSome?_eq_some hfound
    have hin := value_lt_overflow_of_contains hx (Ratio.power_den_pos (by decide) _) (contains_of_onGrid hd)
    rwa [Ratio.value_power] at hin
  | none =>
    refine lt_of_le_of_lt ?_ (value_lt_overflow hx)
    have hfloor := Ratio.floorDiv_le (neighbourhood x).value
      (.power 1 10 (decimalScale (neighbourhood x).value - 20))
    rw [Ratio.value_power, Nat.cast_one, one_mul, le_div_iff₀ (by positivity)] at hfloor
    exact hfloor

end

/-! ### Digits around a point -/

/-- Digits, with a point among them or without one, that write the quotient. -/
def IsNumeral (cs : List Char) (q : ℚ) : Prop :=
  ∃ whole fraction, whole ≠ [] ∧ (∀ c ∈ whole ++ fraction, c.isDigit = true) ∧
    (cs = whole ∧ fraction = [] ∨ cs = whole ++ '.' :: fraction) ∧
    q = decimalValue (whole ++ fraction) * 10 ^ (-(fraction.length : Int))

section
variable {cs : List Char} {q : ℚ} {c : Char}

theorem decimalValue_eq (cs : List Char) : decimalValue cs = Nat.ofDigitChars 10 cs 0 := by
  simp only [decimalValue, ofDigits, List.foldl_map, Nat.ofDigitChars_eq_foldl, digitValue, Nat.mul_comm]

theorem decimalValue_append (cs ds : List Char) :
    decimalValue (cs ++ ds) = 10 ^ ds.length * decimalValue cs + decimalValue ds := by
  rw [decimalValue_eq, decimalValue_eq, decimalValue_eq, Nat.ofDigitChars_append,
    Nat.ofDigitChars_eq_ofDigitChars_zero]

theorem decimalValue_toDigits (n : Nat) : decimalValue (Nat.toDigits 10 n) = n := by
  rw [decimalValue_eq, Nat.ofDigitChars_ten_toDigits]

theorem decimalValue_zeros (n : Nat) : decimalValue (List.replicate n '0') = 0 := by
  rw [decimalValue_eq, Nat.ofDigitChars_replicate_zero, Nat.mul_zero]

theorem isDigit_of_mem_zeros {n : Nat} (h : c ∈ List.replicate n '0') : c.isDigit = true := by
  rw [List.eq_of_mem_replicate h]
  rfl

theorem isDigit_of_mem_toDigits {n : Nat} (h : c ∈ Nat.toDigits 10 n) : c.isDigit = true :=
  Nat.isDigit_of_mem_toDigits (by decide) (by decide) h

theorem toNat_of_isDigit (h : c.isDigit = true) : 48 ≤ c.toNat ∧ c.toNat ≤ 57 := by
  simp only [Char.isDigit, Bool.and_eq_true, decide_eq_true_eq, ge_iff_le, UInt32.le_iff_toNat_le] at h
  exact h

theorem isBlank_of_isDigit (h : c.isDigit = true) : Text.isBlank c = false := by
  have hrange := toNat_of_isDigit h
  simp only [Text.isBlank, Bool.or_eq_false_iff, Bool.and_eq_false_iff, decide_eq_false_iff_not, beq_eq_false_iff_ne]
  omega

theorem toLower_of_isDigit (h : c.isDigit = true) : c.toLower = c := by
  refine Char.toLower_eq_of_not_isUpper fun hupper => ?_
  have hrange := toNat_of_isDigit h
  simp only [Char.isUpper, decide_eq_true_eq, ge_iff_le, UInt32.le_iff_toNat_le] at hupper
  have hle : 65 ≤ c.toNat := hupper.1
  omega

/-- A numeral begins with a digit, so that it has no sign and is no word. -/
theorem IsNumeral.exists_cons (h : IsNumeral cs q) : ∃ d rest, cs = d :: rest ∧ d.isDigit = true := by
  obtain ⟨whole, fraction, hne, hdigits, hcs, -⟩ := h
  obtain ⟨d, rest, rfl⟩ := List.exists_cons_of_ne_nil hne
  have hd := hdigits d (List.mem_append_left _ List.mem_cons_self)
  rcases hcs with ⟨rfl, -⟩ | rfl
  · exact ⟨d, rest, rfl, hd⟩
  · exact ⟨d, rest ++ '.' :: fraction, rfl, hd⟩

theorem IsNumeral.not_blank (h : IsNumeral cs q) : ∀ c ∈ cs, Text.isBlank c = false := by
  obtain ⟨whole, fraction, -, hdigits, hcs, -⟩ := h
  rw [List.forall_mem_append] at hdigits
  intro c hc
  rcases hcs with ⟨rfl, -⟩ | rfl
  · exact isBlank_of_isDigit (hdigits.1 c hc)
  · rcases List.mem_append.mp hc with hc | hc
    · exact isBlank_of_isDigit (hdigits.1 c hc)
    · rcases List.mem_cons.mp hc with rfl | hc
      · rfl
      · exact isBlank_of_isDigit (hdigits.2 c hc)

theorem not_word_of_isDigit {d : Char} (h : d.isDigit = true) (rest : List Char) {c : Char} {word : List Char}
    (hc : c.isDigit = false) : (d :: rest).map Char.toLower ≠ c :: word := by
  intro heq
  rw [List.map_cons, toLower_of_isDigit h] at heq
  obtain ⟨rfl, -⟩ := List.cons.inj heq
  rw [h] at hc
  cases hc

/-- A numeral is read as the decimal that it writes. -/
theorem IsNumeral.ofUnsigned? (h : IsNumeral cs q) (negative : Bool) : ∃ (digits : Nat) (exponent : Int),
    Number.ofUnsigned? negative cs = some (ofDecimal negative digits exponent) ∧ q = digits * 10 ^ exponent := by
  obtain ⟨d, rest, hcons, hd⟩ := h.exists_cons
  have hinf : ¬ (cs.map Char.toLower = "inf".toList ∨ cs.map Char.toLower = "infinity".toList) := by
    rw [hcons]
    rintro (hword | hword)
    · exact not_word_of_isDigit hd rest (by decide) hword
    · exact not_word_of_isDigit hd rest (by decide) hword
  have hnan : ¬ cs.map Char.toLower = "nan".toList := by
    rw [hcons]
    exact not_word_of_isDigit hd rest (by decide)
  obtain ⟨whole, fraction, hne, hdigits, hcs, rfl⟩ := h
  rw [List.forall_mem_append] at hdigits
  have hempty : whole.isEmpty = false := by simpa using hne
  refine ⟨decimalValue (whole ++ fraction), -(fraction.length : Int), ?_, rfl⟩
  have hpoint : ¬ '.'.isDigit = true := by decide
  rw [Number.ofUnsigned?, if_neg hinf, if_neg hnan]
  rcases hcs with ⟨rfl, rfl⟩ | rfl
  · rw [List.takeWhile_eq_self_iff.mpr hdigits.1, List.dropWhile_eq_nil_iff.mpr hdigits.1]
    simp only [hempty, Bool.false_and, Bool.false_eq_true, if_false, exponentOf, Option.map_some]
    rfl
  · rw [List.takeWhile_append_of_pos hdigits.1, List.dropWhile_append_of_pos hdigits.1,
      List.takeWhile_cons_of_neg hpoint, List.dropWhile_cons_of_neg hpoint, List.append_nil]
    simp only [List.takeWhile_eq_self_iff.mpr hdigits.2, List.dropWhile_eq_nil_iff.mpr hdigits.2, hempty,
      Bool.false_and, Bool.false_eq_true, if_false, exponentOf, Option.map_some, Int.zero_sub]

theorem splitSign_of_isDigit {d : Char} (h : d.isDigit = true) (rest : List Char) :
    splitSign (d :: rest) = (false, d :: rest) := by
  unfold splitSign
  split
  · rename_i heq
    obtain ⟨rfl, -⟩ := List.cons.inj heq
    cases h
  · rename_i heq
    obtain ⟨rfl, -⟩ := List.cons.inj heq
    cases h
  · rfl

/-- A numeral in range, with a sign or without one, is a finite number. -/
theorem IsNumeral.ofText? (h : IsNumeral cs q) (hq : q < overflow) (negative : Bool) :
    (Number.ofText? (String.ofList ((if negative then ['-'] else []) ++ cs))).isSome = true := by
  obtain ⟨digits, exponent, hread, rfl⟩ := h.ofUnsigned? negative
  obtain ⟨d, rest, hcons, hd⟩ := h.exists_cons
  have hsplit : splitSign ((if negative then ['-'] else []) ++ cs) = (negative, cs) := by
    cases negative with
    | true => rfl
    | false => exact hcons ▸ splitSign_of_isDigit hd rest
  have hblank : ∀ c ∈ (if negative then ['-'] else []) ++ cs, Text.isBlank c = false := by
    intro c hc
    rcases List.mem_append.mp hc with hc | hc
    · cases negative with
      | true =>
        obtain rfl := List.mem_singleton.mp hc
        rfl
      | false => cases hc
    · exact h.not_blank c hc
  rw [Number.ofText?, String.toList_ofList, Text.trimChars_of_forall hblank, ofChars?, hsplit]
  simp only [hread, Option.filter_some, isFinite_ofDecimal negative hq, if_true, Option.isSome_some]

/-! ### What is written -/

theorem isNumeral_toDigits (n : Nat) : IsNumeral (Nat.toDigits 10 n) n := by
  refine ⟨Nat.toDigits 10 n, [], Nat.toDigits_ne_nil, fun c hc => ?_, Or.inl ⟨rfl, rfl⟩, ?_⟩
  · rw [List.append_nil] at hc
    exact isDigit_of_mem_toDigits hc
  · rw [List.append_nil, decimalValue_toDigits]
    simp

/-- More digits than places: the point is among them. -/
theorem positional_of_lt {digits e : Nat} {ds : List Char} (hds : Nat.toDigits 10 digits = ds) (h : e + 1 < ds.length) :
    (Decimal.positional ⟨digits, .negSucc e⟩ false).toList =
      ds.take (ds.length - (e + 1)) ++ '.' :: ds.drop (ds.length - (e + 1)) := by
  have hwhole : (ds.take (ds.length - (e + 1))).isEmpty = false := by
    rw [List.isEmpty_eq_false_iff]
    refine List.ne_nil_of_length_pos ?_
    rw [List.length_take]
    omega
  have hplaces : (ds.drop (ds.length - (e + 1))).length = e + 1 := by
    rw [List.length_drop]
    omega
  simp only [Decimal.positional, hds, hwhole, hplaces, Nat.sub_self, zeros, List.replicate_zero, Bool.false_eq_true,
    if_false, String.toList_append, String.toList_ofList, List.append_nil, List.append_assoc]
  rfl

/-- No more digits than places: zeros stand before them, on both sides of the point. -/
theorem positional_of_ge {digits e : Nat} {ds : List Char} (hds : Nat.toDigits 10 digits = ds) (h : ds.length ≤ e + 1) :
    (Decimal.positional ⟨digits, .negSucc e⟩ false).toList =
      ['0'] ++ '.' :: (List.replicate (e + 1 - ds.length) '0' ++ ds) := by
  have hnone : ds.length - (e + 1) = 0 := by omega
  simp only [Decimal.positional, hds, hnone, zeros, List.take_zero, List.drop_zero, List.isEmpty_nil, if_true,
    String.toList_append, String.toList_ofList, List.append_assoc]
  rfl

theorem decimalValue_zeros_append (n : Nat) (cs : List Char) :
    decimalValue (List.replicate n '0' ++ cs) = decimalValue cs := by
  rw [decimalValue_append, decimalValue_zeros, Nat.mul_zero, Nat.zero_add]

/-- All digits in their places are a numeral. -/
theorem isNumeral_positional (d : Decimal) : IsNumeral (d.positional false).toList d.value := by
  obtain ⟨digits, exponent⟩ := d
  obtain ⟨ds, hds⟩ : ∃ ds, Nat.toDigits 10 digits = ds := ⟨_, rfl⟩
  have hne : ds ≠ [] := hds ▸ Nat.toDigits_ne_nil
  have hdigits : ∀ c ∈ ds, c.isDigit = true := fun c hc => isDigit_of_mem_toDigits (hds ▸ hc)
  have hvalue : decimalValue ds = digits := hds ▸ decimalValue_toDigits digits
  cases exponent with
  | ofNat e =>
    refine ⟨ds ++ List.replicate e '0', [], List.append_ne_nil_of_left_ne_nil hne _, ?_, Or.inl ⟨?_, rfl⟩, ?_⟩
    · rw [List.append_nil, List.forall_mem_append]
      exact ⟨hdigits, fun c hc => isDigit_of_mem_zeros hc⟩
    · simp [Decimal.positional, zeros, hds]
    · rw [List.append_nil, decimalValue_append, hvalue, decimalValue_zeros, Decimal.value]
      simp
      ring
  | negSucc e =>
    have hexp : Int.negSucc e = -((e + 1 : Nat) : Int) := rfl
    rcases Nat.lt_or_ge (e + 1) ds.length with hlt | hge
    · refine ⟨_, _, ?_, ?_, Or.inr (positional_of_lt hds hlt), ?_⟩
      · refine List.ne_nil_of_length_pos ?_
        rw [List.length_take]
        omega
      · rwa [List.take_append_drop]
      · have hplaces : (ds.drop (ds.length - (e + 1))).length = e + 1 := by
          rw [List.length_drop]
          omega
        rw [List.take_append_drop, hvalue, hplaces, Decimal.value, hexp]
    · refine ⟨_, _, List.cons_ne_nil _ _, ?_, Or.inr (positional_of_ge hds hge), ?_⟩
      · rw [List.forall_mem_append, List.forall_mem_append, List.forall_mem_singleton]
        exact ⟨rfl, fun c hc => isDigit_of_mem_zeros hc, hdigits⟩
      · have hplaces : (List.replicate (e + 1 - ds.length) '0' ++ ds).length = e + 1 := by
          rw [List.length_append, List.length_replicate]
          omega
        have hzero : ['0'] = List.replicate 1 '0' := rfl
        rw [hplaces, hzero, decimalValue_zeros_append, decimalValue_zeros_append, hvalue, Decimal.value, hexp]

theorem natCast_lt_overflow {n : Nat} (h : n < 10 ^ 15) : (n : ℚ) < overflow := by
  have hcast : (n : ℚ) < 10 ^ 15 := by exact_mod_cast h
  have hunit : (1 : ℚ) ≤ 2 ^ (971 : Int) := one_le_zpow₀ one_le_two (by norm_num)
  calc (n : ℚ) < (2 ^ 53 - 1 / 2) * 1 := hcast.trans (by norm_num)
    _ ≤ overflow := mul_le_mul_of_nonneg_left hunit (by norm_num)

theorem ofList_sign (negative : Bool) (s : String) :
    (if negative then "-" else "") ++ s = String.ofList ((if negative then ['-'] else []) ++ s.toList) := by
  rw [String.ofList_append, String.ofList_toList]
  cases negative <;> rfl

/-- **A finite float is read as a number** from the text that it is written as. -/
theorem isSome_ofText?_text {x : Float} (hx : x.isFinite = true) : (Number.ofText? (text x)).isSome = true := by
  have hfield := exponentField_lt hx
  unfold text
  split
  · rename_i hwhole
    have hsign : (if isNegative x = true ∧ truncate x ≠ 0 then "-" else "")
        = if (isNegative x && truncate x != 0) = true then "-" else "" := by simp
    rw [hsign, ofList_sign, digitText, String.toList_ofList]
    exact (isNumeral_toDigits _).ofText? (natCast_lt_overflow (Nat.pow_eq ▸ hwhole.2.2)) _
  · simp only [render, isNaN_of_isFinite hx, hfield.ne, Bool.false_eq_true, if_false]
    split
    · rw [ofList_sign]
      exact (isNumeral_toDigits 0).ofText? (natCast_lt_overflow (by norm_num)) _
    · rw [plain, ofList_sign]
      exact (isNumeral_positional _).ofText? (value_shortest_lt hx) _

end

end Questionnaire.Number
