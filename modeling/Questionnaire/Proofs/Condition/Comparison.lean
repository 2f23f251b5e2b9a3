import Questionnaire.Condition.Evaluation
import Questionnaire.Proofs.Document.Rereading
import Questionnaire.Proofs.Number.Numeral
import Questionnaire.Proofs.Number.Order

/-!
# The six comparisons

What a comparison sees of a value is a finite number or a text, and a text of a single value that writes a number is
that number. So the text of a number is never the same as a text that is left, and of less, equal and greater there is
always one. Lists are the exception: they are compared as texts, but being equal means membership for them.
-/

namespace Questionnaire

/-! ### Scalars -/

namespace Scalar

open Number

/-- The number, if it is one, is finite. -/
def IsFinite : Scalar → Prop
  | .number x => x.isFinite = true
  | .text _ => True

/-- The text, if it is one, does not write a number. -/
def IsRead : Scalar → Prop
  | .number _ => True
  | .text s => Number.ofText? s = none

variable {a b : Scalar}

theorem compare_swap (a b : Scalar) : b.compare a = (a.compare b).map Ordering.swap := by
  cases a with
  | number x =>
    cases b with
    | number y => rw [compare, compare, compareNumbers_eq, compareNumbers_eq, Number.compare_swap]
    | text t => exact congrArg some Std.OrientedOrd.eq_swap
  | text s => cases b <;> exact congrArg some Std.OrientedOrd.eq_swap

theorem isSome_compare (ha : a.IsFinite) (hb : b.IsFinite) : (a.compare b).isSome = true := by
  cases a with
  | number x =>
    cases b with
    | number y =>
      rw [compare, compareNumbers_eq]
      exact Number.isSome_compare ha hb
    | text t => rfl
  | text s => cases b <;> rfl

/-- The text of a finite number is none of the texts that are left. -/
theorem text_ne_of_isRead {x : Float} {s : String} (hx : x.isFinite = true) (hs : Number.ofText? s = none) :
    Number.text x ≠ s := by
  intro heq
  have hsome := isSome_ofText?_text hx
  rw [heq, hs] at hsome
  cases hsome

theorem compare_eq_iff (ha : a.IsFinite) (ha' : a.IsRead) (hb : b.IsFinite) (hb' : b.IsRead) :
    a.compare b = some .eq ↔ a.eq b = true := by
  cases a with
  | number x =>
    cases b with
    | number y => rw [compare, compareNumbers_eq, eq, beq_iff_compare]
    | text t =>
      refine iff_of_false (fun h => ?_) Bool.false_ne_true
      exact text_ne_of_isRead ha hb' (compare_eq_iff_eq.mp (Option.some.inj h))
  | text s =>
    cases b with
    | number y =>
      refine iff_of_false (fun h => ?_) Bool.false_ne_true
      exact text_ne_of_isRead hb ha' (compare_eq_iff_eq.mp (Option.some.inj h)).symm
    | text t =>
      have hread : (Scalar.text s).compare (.text t) = some (Ord.compare s t) := rfl
      rw [hread, eq, beq_iff_eq, Option.some.injEq]
      exact compare_eq_iff_eq

theorem eq_symm (a b : Scalar) : a.eq b = b.eq a := by
  rw [Bool.eq_iff_iff]
  cases a with
  | number x =>
    cases b with
    | number y =>
      rw [eq, eq, beq_iff_compare, beq_iff_compare, Number.compare_swap x.toModel.unpack]
      cases x.toModel.unpack.compare y.toModel.unpack with
      | none => rfl
      | some order => cases order <;> simp
    | text t => rfl
  | text s =>
    cases b with
    | number y => rfl
    | text t => rw [eq, eq, beq_iff_eq, beq_iff_eq, eq_comm]

theorem isFinite_ofText (s : String) : (ofText s).IsFinite := by
  unfold ofText
  split
  · rename_i hx
    exact (Option.filter_eq_some_iff.mp hx).2
  · trivial

theorem isRead_ofText (s : String) : (ofText s).IsRead := by
  unfold ofText
  split
  · trivial
  · assumption

theorem isFinite_ofJson? {v : Option Json} (h : ∀ w, v = some w → w.IsValue) : (ofJson? v).IsFinite := by
  cases v with
  | none => trivial
  | some w =>
    have hw := h w rfl
    cases w with
    | null | array => trivial
    | bool | text | object => exact isFinite_ofText _
    | float x => exact hw
    | int n =>
      refine isFinite_ofInt ?_
      simp only [Json.IsValue, Nat.pow_eq] at hw
      omega

/-- A list keeps a text that writes a number. -/
theorem isRead_ofJson? {v : Option Json} (h : ∀ items, v ≠ some (.array items)) : (ofJson? v).IsRead := by
  cases v with
  | none => rfl
  | some w =>
    cases w with
    | null => rfl
    | array items => exact absurd rfl (h items)
    | bool | text | object => exact isRead_ofText _
    | int | float => trivial

end Scalar

/-! ### Values -/

/-- The value is a list. -/
def IsList (v : Option Json) : Prop := ∃ items, v = some (.array items)

theorem membership?_eq_none_iff {left right : Option Json} :
    membership? left right = none ↔ ¬ IsList left ∧ ¬ IsList right := by
  unfold membership?
  split
  · rename_i items
    exact iff_of_false nofun fun h => h.1 ⟨items, rfl⟩
  · rename_i items _
    exact iff_of_false nofun fun h => h.2 ⟨items, rfl⟩
  · rename_i hleft hright
    refine iff_of_true rfl ⟨?_, ?_⟩
    · rintro ⟨items, rfl⟩
      exact hleft items rfl
    · rintro ⟨items, rfl⟩
      exact hright items rfl

namespace Comparison

variable {left right : Option Json}

/-- Beside equality a comparison looks at scalars only. -/
theorem holds_of_order {op : Comparison} (heq : op ≠ .eq) (hneq : op ≠ .neq) (left right : Option Json) :
    op.holds left right = op.scalars (Scalar.ofJson? left) (Scalar.ofJson? right) := by
  unfold holds
  split
  · exact absurd rfl heq
  · exact absurd rfl hneq
  · rfl

theorem holds_neq (left right : Option Json) : neq.holds left right = !eq.holds left right := by
  cases hmember : membership? left right with
  | none => simp only [holds, hmember, scalars]
  | some b => simp only [holds, hmember]

theorem holds_eq_of_not_isList (hleft : ¬ IsList left) (hright : ¬ IsList right) :
    eq.holds left right = (Scalar.ofJson? left).eq (Scalar.ofJson? right) := by
  simp only [holds, membership?_eq_none_iff.mpr ⟨hleft, hright⟩, scalars]

/-- The comparison that an order is. -/
def ofOrder : Ordering → Comparison
  | .lt => lt
  | .eq => eq
  | .gt => gt

/-- Two values are less, equal or greater, and the comparisons go by that. -/
theorem exists_order (hleft : ∀ w, left = some w → w.IsValue) (hright : ∀ w, right = some w → w.IsValue) :
    ∃ order, (Scalar.ofJson? left).compare (Scalar.ofJson? right) = some order ∧
      lt.holds left right = (order == .lt) ∧ gt.holds left right = (order == .gt) ∧
      lte.holds left right = (order != .gt) ∧ gte.holds left right = (order != .lt) := by
  obtain ⟨order, horder⟩ := Option.isSome_iff_exists.mp
    (Scalar.isSome_compare (Scalar.isFinite_ofJson? hleft) (Scalar.isFinite_ofJson? hright))
  refine ⟨order, horder, ?_⟩
  rw [holds_of_order (by decide) (by decide), holds_of_order (by decide) (by decide),
    holds_of_order (by decide) (by decide), holds_of_order (by decide) (by decide)]
  simp only [scalars, horder]
  cases order <;> decide

theorem holds_lt_swap (left right : Option Json) : lt.holds left right = gt.holds right left := by
  rw [holds_of_order (by decide) (by decide), holds_of_order (by decide) (by decide), scalars, scalars,
    Scalar.compare_swap (Scalar.ofJson? left)]
  cases (Scalar.ofJson? left).compare (Scalar.ofJson? right) with
  | none => rfl
  | some order => cases order <;> rfl

/-- Values other than lists are equal just if they are neither less nor greater. -/
theorem holds_eq_of_compare (hleft : ∀ w, left = some w → w.IsValue) (hright : ∀ w, right = some w → w.IsValue)
    (hl : ¬ IsList left) (hr : ¬ IsList right) {order : Ordering}
    (h : (Scalar.ofJson? left).compare (Scalar.ofJson? right) = some order) :
    eq.holds left right = (order == .eq) := by
  have hiff := Scalar.compare_eq_iff (Scalar.isFinite_ofJson? hleft) (Scalar.isRead_ofJson? (not_exists.mp hl))
    (Scalar.isFinite_ofJson? hright) (Scalar.isRead_ofJson? (not_exists.mp hr))
  rw [holds_eq_of_not_isList hl hr, Bool.eq_iff_iff, ← hiff, h, Option.some.injEq, beq_iff_eq]

end Comparison

/-! ### Conditions -/

section
variable {answers : Answers} {vars : Variables} {l r : Operand}

theorem Operand.isValue_of_resolve (hl : l.IsRead) (ha : ∀ e ∈ answers.toList, e.2.IsValue) (v : Json)
    (h : l.resolve answers vars = some v) : v.IsValue := by
  rcases l with id | name | w
  · exact ha _ (Entries.mem_toList.mpr h)
  · obtain ⟨w, -, rfl⟩ := Option.map_eq_some_iff.mp h
    exact w.isValue_toJson
  · obtain rfl := Option.some.inj h
    exact hl

/-- A variable is never a list. -/
theorem Operand.not_isList_variable (name : String) : ¬ IsList ((Operand.variable name).resolve answers vars) := by
  rintro ⟨items, hitems⟩
  rw [resolve, Option.map_eq_some_iff] at hitems
  obtain ⟨v, -, hv⟩ := hitems
  cases v with
  | number x =>
    rw [VariableValue.toJson, Json.ofFloat] at hv
    split at hv <;> cases hv
  | text s => cases hv

namespace Condition

/-- **The six comparisons cohere.** Not equal is the negation of equal, at most that of greater and at least that of
less, and less is greater the other way round. Where neither side is a list, just one of less, equal and greater holds,
whatever is missing, empty, a number, a text or an object, on either side. -/
theorem comparisons_cohere (hl : l.IsRead) (hr : r.IsRead) (ha : ∀ e ∈ answers.toList, e.2.IsValue) :
    let judge (op : Comparison) (l r : Operand) := (compare op l r).holds answers vars
    judge .neq l r = !judge .eq l r ∧ judge .lte l r = !judge .gt l r ∧ judge .gte l r = !judge .lt l r ∧
      judge .lt l r = judge .gt r l ∧
      (¬ IsList (l.resolve answers vars) → ¬ IsList (r.resolve answers vars) →
        ∃! op, op ∈ [Comparison.lt, .eq, .gt] ∧ judge op l r = true) := by
  have hleft : ∀ v, l.resolve answers vars = some v → v.IsValue := Operand.isValue_of_resolve hl ha
  have hright : ∀ v, r.resolve answers vars = some v → v.IsValue := Operand.isValue_of_resolve hr ha
  simp only [holds]
  obtain ⟨order, horder, hlt, hgt, hlte, hgte⟩ := Comparison.exists_order hleft hright
  refine ⟨Comparison.holds_neq _ _, ?_, ?_, Comparison.holds_lt_swap _ _, fun hl hr => ?_⟩
  · rw [hlte, hgt]
    rfl
  · rw [hgte, hlt]
    rfl
  · have heq := Comparison.holds_eq_of_compare hleft hright hl hr horder
    have hjudge : ∀ op ∈ [Comparison.lt, .eq, .gt],
        op.holds (l.resolve answers vars) (r.resolve answers vars) = decide (op = .ofOrder order) := by
      rw [List.forall_mem_cons, List.forall_mem_cons, List.forall_mem_singleton, hlt, heq, hgt]
      cases order <;> decide
    have hmem : Comparison.ofOrder order ∈ [Comparison.lt, .eq, .gt] := by cases order <;> decide
    refine ⟨.ofOrder order, ⟨hmem, ?_⟩, ?_⟩
    · rw [hjudge _ hmem]
      exact decide_eq_true rfl
    · rintro op ⟨hop, hholds⟩
      rw [hjudge op hop] at hholds
      exact of_decide_eq_true hholds

/-- A variable that holds no number is empty for a comparison. -/
theorem comparisons_cohere_of_nan :
    let answers : Answers := (∅ : Answers).insert "age" (.text "9a")
    let vars : Variables := Variables.setNumber ∅ "score" (0 / 0)
    let score : Operand := .variable "score"
    let age : Operand := .block "age"
    (∀ e ∈ answers.toList, e.2.IsValue) ∧ ¬ IsList (score.resolve answers vars) ∧ ¬ IsList (age.resolve answers vars) ∧
      ∃! op, op ∈ [Comparison.lt, .eq, .gt] ∧ (compare op score age).holds answers vars = true := by
  intro answers vars score age
  have hanswers : ∀ e ∈ answers.toList, e.2.IsValue := List.forall_mem_singleton.mpr trivial
  have hscore : ¬ IsList (score.resolve answers vars) := Operand.not_isList_variable "score"
  have hage : ¬ IsList (age.resolve answers vars) := by
    rintro ⟨items, hitems⟩
    have hget : age.resolve answers vars = some (.text "9a") := Entries.get?_insert ∅ "age" (Json.text "9a") "age"
    rw [hget] at hitems
    cases hitems
  have hread : score.IsRead ∧ age.IsRead := ⟨trivial, trivial⟩
  exact ⟨hanswers, hscore, hage, (comparisons_cohere hread.1 hread.2 hanswers).2.2.2.2 hscore hage⟩

end Condition

end

end Questionnaire
