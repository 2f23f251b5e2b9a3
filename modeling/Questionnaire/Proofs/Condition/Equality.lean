import Questionnaire.Proofs.Condition.Comparison

/-!
# Whether equality is symmetric

Equality with a list is membership in it, whichever side the list is on. Of two lists it is the left one that is
searched. No two lists are items of each other, because an item is nested less deeply than its list; so equality of two
lists is symmetric only if neither is an item of the other, where it holds neither way.
-/

namespace Questionnaire

namespace Json

mutual

/-- How many lists lie in one another. -/
def nesting : Json → Nat
  | .array items => nestingItems items + 1
  | _ => 0

def nestingItems : List Json → Nat
  | [] => 0
  | v :: rest => max v.nesting (nestingItems rest)

end

mutual

theorem nesting_of_same : ∀ {a b : Json}, a.same b = true → a.nesting = b.nesting
  | .array xs, .array ys, h => by
    rw [same] at h
    rw [nesting, nesting, nestingItems_of_same h]
  | .null, .null, _ | .bool _, .bool _, _ | .int _, .int _, _ | .float _, .float _, _ | .text _, .text _, _ => rfl
  | .object _, .object _, _ => rfl

theorem nestingItems_of_same : ∀ {xs ys : List Json}, sameItems xs ys = true → nestingItems xs = nestingItems ys
  | [], [], _ => rfl
  | x :: xs, y :: ys, h => by
    rw [sameItems, Bool.and_eq_true] at h
    rw [nestingItems, nestingItems, nesting_of_same h.1, nestingItems_of_same h.2]

end

theorem nesting_le_of_mem {v : Json} {items : List Json} (h : v ∈ items) : v.nesting ≤ nestingItems items := by
  induction items with
  | nil => cases h
  | cons w rest ih =>
    rw [nestingItems]
    rcases List.mem_cons.mp h with rfl | h
    · exact le_max_left _ _
    · exact (ih h).trans (le_max_right _ _)

end Json

/-- An item is nested less deeply than its list. -/
theorem nesting_lt_of_isItem {xs ys : List Json} (h : isItem xs (some (.array ys)) = true) :
    (Json.array ys).nesting < (Json.array xs).nesting := by
  obtain ⟨item, hitem, hsame⟩ := List.any_eq_true.mp h
  have hread : item.sameItem (.array ys) = item.same (.array ys) := by
    cases item <;> rfl
  rw [hread] at hsame
  have hle := Json.nesting_le_of_mem hitem
  rw [Json.nesting_of_same hsame] at hle
  rw [Json.nesting.eq_1 xs]
  omega

/-- Of two lists one at most is an item of the other. -/
theorem not_isItem_both {xs ys : List Json} (h : isItem xs (some (.array ys)) = true) :
    isItem ys (some (.array xs)) = false := by
  rw [← Bool.not_eq_true]
  intro h'
  have hlt := nesting_lt_of_isItem h
  have hlt' := nesting_lt_of_isItem h'
  omega

theorem membership?_list (xs : List Json) (right : Option Json) :
    membership? (some (.array xs)) right = some (isItem xs right) := rfl

theorem membership?_list_right {left : Option Json} (h : ¬ IsList left) (ys : List Json) :
    membership? left (some (.array ys)) = some (isItem ys left) := by
  cases left with
  | none => rfl
  | some v =>
    cases v with
    | array xs => exact absurd ⟨xs, rfl⟩ h
    | _ => rfl

/-- Unless both sides are lists, it does not matter on which side a list is. -/
theorem membership?_comm {left right : Option Json} (h : ¬ (IsList left ∧ IsList right)) :
    membership? left right = membership? right left := by
  by_cases hleft : IsList left
  · have hright : ¬ IsList right := fun hright => h ⟨hleft, hright⟩
    obtain ⟨xs, rfl⟩ := hleft
    rw [membership?_list, membership?_list_right hright]
  · by_cases hright : IsList right
    · obtain ⟨ys, rfl⟩ := hright
      rw [membership?_list, membership?_list_right hleft]
    · rw [membership?_eq_none_iff.mpr ⟨hleft, hright⟩, membership?_eq_none_iff.mpr ⟨hright, hleft⟩]

namespace Comparison

theorem holds_eq_comm {left right : Option Json} (h : ¬ (IsList left ∧ IsList right)) :
    eq.holds left right = eq.holds right left := by
  have hmember := membership?_comm h
  cases hright : membership? right left with
  | none =>
    simp only [holds, hmember.trans hright, hright, scalars]
    exact Scalar.eq_symm _ _
  | some b => simp only [holds, hmember.trans hright, hright]

/-- Equality of two lists is asked of the left one. -/
theorem holds_eq_list (xs ys : List Json) :
    eq.holds (some (.array xs)) (some (.array ys)) = isItem xs (some (.array ys)) := rfl

end Comparison

namespace Condition

/-- **Equality is symmetric unless one list is an item of another.** Two operands are equal the one way just if they
are the other way, and unequal likewise, unless both are lists of which one is an item of the other; then the list that
the other is an item of has to be on the left. -/
theorem equality_symmetric_iff (l r : Operand) (answers : Answers) (vars : Variables) :
    let judge (op : Comparison) (l r : Operand) := (compare op l r).holds answers vars
    (judge .eq l r = judge .eq r l ∧ judge .neq l r = judge .neq r l) ↔
      ¬ ∃ xs ys, l.resolve answers vars = some (.array xs) ∧ r.resolve answers vars = some (.array ys) ∧
        (isItem xs (some (.array ys)) = true ∨ isItem ys (some (.array xs)) = true) := by
  simp only [holds]
  generalize l.resolve answers vars = left
  generalize r.resolve answers vars = right
  have hboth : (Comparison.eq.holds left right = Comparison.eq.holds right left ∧
      Comparison.neq.holds left right = Comparison.neq.holds right left) ↔
        Comparison.eq.holds left right = Comparison.eq.holds right left := by
    rw [Comparison.holds_neq, Comparison.holds_neq, Bool.not_inj_iff, and_self_iff]
  rw [hboth]
  by_cases hlists : IsList left ∧ IsList right
  · obtain ⟨⟨xs, rfl⟩, ys, rfl⟩ := hlists
    rw [Comparison.holds_eq_list, Comparison.holds_eq_list]
    constructor
    · rintro heq ⟨xs', ys', hxs, hys, hitem⟩
      cases hxs
      cases hys
      rcases hitem with hitem | hitem
      · rw [hitem, not_isItem_both hitem] at heq
        cases heq
      · rw [hitem, not_isItem_both hitem] at heq
        cases heq
    · intro hnot
      have hxs : isItem xs (some (.array ys)) = false :=
        Bool.eq_false_of_not_eq_true fun h => hnot ⟨xs, ys, rfl, rfl, Or.inl h⟩
      have hys : isItem ys (some (.array xs)) = false :=
        Bool.eq_false_of_not_eq_true fun h => hnot ⟨xs, ys, rfl, rfl, Or.inr h⟩
      rw [hxs, hys]
  · refine iff_of_true (Comparison.holds_eq_comm hlists) ?_
    rintro ⟨xs, ys, hleft, hright, -⟩
    exact hlists ⟨⟨xs, hleft⟩, ys, hright⟩

/-- A list that holds a list is equal to it, and the other way round they are not equal. -/
theorem list_of_list_is_not_symmetric :
    (compare .eq (.constant (.array [.array [.text "a"]])) (.constant (.array [.text "a"]))).holds ∅ ∅ = true ∧
      (compare .eq (.constant (.array [.text "a"])) (.constant (.array [.array [.text "a"]]))).holds ∅ ∅ = false := by
  decide

end Condition

end Questionnaire
