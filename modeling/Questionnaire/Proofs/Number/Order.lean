import Questionnaire.Json.Coercion
import Questionnaire.Proofs.Number.Bits

/-!
# The order of numbers

Two numbers compared the other way round give the opposite result. What is no number is compared with nothing; any two
finite numbers are ordered.
-/

namespace Questionnaire

namespace Number

open Float.Model

/-! ### Numbers by their fields -/

section
variable {a b : UnpackedFloat} {x y : Float}

theorem compare_swap (a b : UnpackedFloat) : b.compare a = (a.compare b).map Ordering.swap := by
  have hfields : ∀ (e e' : Int) (m m' : Nat),
      (compare e' e).then (compare m' m) = ((compare e e').then (compare m m')).swap := by
    intro e e' m m'
    rw [Ordering.swap_then, ← Std.OrientedOrd.eq_swap, ← Std.OrientedOrd.eq_swap]
  cases a with
  | notANumber => cases b <;> rfl
  | infinity s => cases b with
    | infinity s' => cases s <;> cases s' <;> rfl
    | _ => cases s <;> rfl
  | zero s => cases b with
    | infinity s' | finite s' => cases s' <;> rfl
    | _ => rfl
  | finite s m e => cases b with
    | notANumber => rfl
    | infinity s' => cases s' <;> rfl
    | zero => cases s <;> rfl
    | finite s' m' e' => cases s with
      | positive => cases s' with
        | positive => exact congrArg some (hfields e e' m m')
        | negative => rfl
      | negative => cases s' with
        | positive => rfl
        | negative => exact congrArg (fun order => some order.swap) (hfields e e' m m')

theorem isSome_compare (ha : a.isFinite = true) (hb : b.isFinite = true) : (a.compare b).isSome = true := by
  cases a with
  | notANumber | infinity => cases ha
  | zero s => cases b with
    | notANumber | infinity => cases hb
    | zero => rfl
    | finite s' => cases s' <;> rfl
  | finite s m e => cases b with
    | notANumber | infinity => cases hb
    | zero => cases s <;> rfl
    | finite s' m' e' => cases s <;> cases s' <;> rfl

theorem lt_iff_compare : x < y ↔ x.toModel.unpack.compare y.toModel.unpack = some .lt := by
  have hread : x < y ↔ x.toModel.unpack.lt y.toModel.unpack = true := decide_eq_true_iff
  rw [hread, UnpackedFloat.lt, beq_iff_eq]

theorem beq_iff_compare : (x == y) = true ↔ x.toModel.unpack.compare y.toModel.unpack = some .eq := by
  have hread : (x == y) = x.toModel.unpack.beq y.toModel.unpack := rfl
  rw [hread, UnpackedFloat.beq, beq_iff_eq]

theorem le_iff_compare : x ≤ y ↔ ∃ order, x.toModel.unpack.compare y.toModel.unpack = some order ∧ order ≠ .gt := by
  have hread : x ≤ y ↔ x.toModel.unpack.le y.toModel.unpack = true := decide_eq_true_iff
  rw [hread, UnpackedFloat.le, Option.any_eq_true]
  exact exists_congr fun order => and_congr_right fun _ => by cases order <;> decide

theorem compare_eq_none_iff : a.compare b = none ↔ a.isNaN = true ∨ b.isNaN = true := by
  have hnone : ∀ {c : UnpackedFloat}, c.isNaN = true ↔ c = .notANumber := by
    intro c
    cases c <;> simp [UnpackedFloat.isNaN]
  rw [hnone, hnone]
  constructor
  · intro h
    cases a with
    | notANumber => exact Or.inl rfl
    | infinity s => cases b with
      | notANumber => exact Or.inr rfl
      | _ => cases s <;> cases h
    | zero s => cases b with
      | notANumber => exact Or.inr rfl
      | zero => cases h
      | infinity s' | finite s' => cases s' <;> cases h
    | finite s => cases b with
      | notANumber => exact Or.inr rfl
      | zero => cases s <;> cases h
      | infinity s' | finite s' => cases s <;> cases s' <;> cases h
  · rintro (rfl | rfl)
    · cases b <;> rfl
    · cases a <;> rfl

/-- What is not less is greater or equal, unless one of the two is no number. -/
theorem not_lt_iff : ¬ x < y ↔ y ≤ x ∨ x.isNaN = true ∨ y.isNaN = true := by
  have hnan : ∀ z : Float, z.isNaN = z.toModel.unpack.isNaN := fun _ => rfl
  rw [lt_iff_compare, le_iff_compare, hnan, hnan, ← compare_eq_none_iff, compare_swap x.toModel.unpack]
  cases x.toModel.unpack.compare y.toModel.unpack with
  | none => simp
  | some order => cases order <;> simp

end

end Number

namespace Scalar

open Number

/-- The comparison of two numbers is that of their fields. -/
theorem compareNumbers_eq (x y : Float) : compareNumbers x y = x.toModel.unpack.compare y.toModel.unpack := by
  have hswap := compare_swap x.toModel.unpack y.toModel.unpack
  simp only [compareNumbers, lt_iff_compare, beq_iff_compare, hswap]
  cases x.toModel.unpack.compare y.toModel.unpack with
  | none => rfl
  | some order => cases order <;> rfl

end Scalar

end Questionnaire
