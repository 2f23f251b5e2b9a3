import Mathlib.Data.List.Forall2
import Questionnaire.Condition.Evaluation

/-!
# Malformed parts replaced

A malformed part does not hold, and nothing in a condition asks that a part should not hold. So what holds with a
malformed part holds with anything else in its place, and with something in its place that does not hold either the
condition is judged as before.
-/

namespace Questionnaire

namespace Condition

/-- The second condition is the first one with malformed parts replaced, at any depth, each by a condition that may
stand in its place. -/
inductive Mended (MayStand : Condition → Prop) : Condition → Condition → Prop
  | always : Mended MayStand .always .always
  | compare {op left right} : Mended MayStand (.compare op left right) (.compare op left right)
  | all {parts parts'} : List.Forall₂ (Mended MayStand) parts parts' → Mended MayStand (.all parts) (.all parts')
  | any {parts parts'} : List.Forall₂ (Mended MayStand) parts parts' → Mended MayStand (.any parts) (.any parts')
  | malformed {raw c} : MayStand c → Mended MayStand (.malformed raw) c

/-- A relation between judgements that lasts when they are joined. -/
structure Lasts (R : Bool → Bool → Prop) : Prop where
  refl : ∀ b, R b b
  and : ∀ {a a' b b'}, R a a' → R b b' → R (a && b) (a' && b')
  or : ∀ {a a' b b'}, R a a' → R b b' → R (a || b) (a' || b')

theorem lasts_eq : Lasts Eq where
  refl _ := rfl
  and := congrArg₂ and
  or := congrArg₂ or

theorem lasts_imp : Lasts fun a b => a = true → b = true where
  refl _ := id
  and h h' := by
    rw [Bool.and_eq_true, Bool.and_eq_true]
    exact And.imp h h'
  or h h' := by
    rw [Bool.or_eq_true, Bool.or_eq_true]
    exact Or.imp h h'

section
variable {MayStand : Condition → Prop} {R : Bool → Bool → Prop} {answers : Answers} {vars : Variables}

mutual

/-- A condition and a mended one are judged in a relation that lasts, if whatever stands for a malformed part is in that
relation to what does not hold. -/
theorem Mended.judged (hR : Lasts R) (hstand : ∀ c, MayStand c → R false (c.holds answers vars)) :
    ∀ {c c' : Condition}, Mended MayStand c c' → R (c.holds answers vars) (c'.holds answers vars)
  | _, _, .always => hR.refl _
  | _, _, .compare => hR.refl _
  | _, _, .malformed hc => hstand _ hc
  | .all _, .all _, .all h => by
    rw [holds, holds]
    exact allHold_judged hR hstand h
  | .any _, .any _, .any h => by
    rw [holds, holds]
    exact anyHolds_judged hR hstand h

theorem allHold_judged (hR : Lasts R) (hstand : ∀ c, MayStand c → R false (c.holds answers vars)) :
    ∀ {parts parts' : List Condition}, List.Forall₂ (Mended MayStand) parts parts' →
      R (allHold answers vars parts) (allHold answers vars parts')
  | _, _, .nil => hR.refl _
  | _, _, .cons h hrest => by
    rw [allHold, allHold]
    exact hR.and (h.judged hR hstand) (allHold_judged hR hstand hrest)

theorem anyHolds_judged (hR : Lasts R) (hstand : ∀ c, MayStand c → R false (c.holds answers vars)) :
    ∀ {parts parts' : List Condition}, List.Forall₂ (Mended MayStand) parts parts' →
      R (anyHolds answers vars parts) (anyHolds answers vars parts')
  | _, _, .nil => hR.refl _
  | _, _, .cons h hrest => by
    rw [anyHolds, anyHolds]
    exact hR.or (h.judged hR hstand) (anyHolds_judged hR hstand hrest)

end

end

/-- **A malformed part is never why a condition holds.** What holds still holds when malformed parts of it, at any
depth, are replaced by conditions of any kind. If every one of them is replaced by a condition that does not hold
either, the whole is judged as before. -/
theorem malformed_part_is_no_reason (c c' : Condition) (answers : Answers) (vars : Variables) :
    (Mended (fun _ => True) c c' → c.holds answers vars = true → c'.holds answers vars = true) ∧
    (Mended (fun part => part.holds answers vars = false) c c' → c.holds answers vars = c'.holds answers vars) := by
  constructor
  · intro h
    exact h.judged lasts_imp fun _ _ hfalse => absurd hfalse Bool.false_ne_true
  · intro h
    exact h.judged lasts_eq fun _ hpart => hpart.symm

/-- A condition that holds whatever the part in it is. -/
def anyhow (part : Condition) : Condition := .any [.all [.always, part], .all []]

theorem mended_anyhow {MayStand : Condition → Prop} {part : Condition} (raw : Json) (h : MayStand part) :
    Mended MayStand (anyhow (.malformed raw)) (anyhow part) :=
  .any (.cons (.all (.cons .always (.cons (.malformed h) .nil))) (.cons (.all .nil) .nil))

theorem malformed_part_is_no_reason_of_group :
    (anyhow (.malformed .null)).holds ∅ ∅ = true ∧ Mended (fun _ => True) (anyhow (.malformed .null)) (anyhow .always) ∧
      (anyhow .always).holds ∅ ∅ = true ∧ (Condition.any []).holds ∅ ∅ = false ∧
      Mended (fun part => part.holds ∅ ∅ = false) (anyhow (.malformed .null)) (anyhow (.any [])) ∧
      (anyhow (.malformed .null)).holds ∅ ∅ = (anyhow (.any [])).holds ∅ ∅ := by
  have hany : Mended (fun _ => True) (anyhow (.malformed .null)) (anyhow .always) := mended_anyhow .null trivial
  have hidle : Mended (fun part => part.holds ∅ ∅ = false) (anyhow (.malformed .null)) (anyhow (.any [])) :=
    mended_anyhow .null rfl
  exact ⟨rfl, hany, (malformed_part_is_no_reason _ _ ∅ ∅).1 hany rfl, rfl, hidle,
    (malformed_part_is_no_reason _ _ ∅ ∅).2 hidle⟩

end Condition

end Questionnaire
