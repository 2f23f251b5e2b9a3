import Questionnaire.Condition
import Questionnaire.Proofs.Document.Values

/-!
# Conditions written and read again

A condition that is read from a value is written as a value and read from that as the same condition. What is no
condition is kept as the value that it is, which is no condition either when it is read again; so the parts of a
condition tree are read again one by one, malformed ones included.
-/

namespace Questionnaire

namespace Json

theorem isValue_withType {type : String} {v : Json} (h : v.IsValue) : (withType type v).IsValue :=
  isValue_object.mpr ⟨by simp [Members.names],
    List.forall_mem_cons.mpr ⟨trivial, List.forall_mem_singleton.mpr h⟩⟩

theorem isValue_of_typed? {raw v : Json} {type : String} (h : raw.IsValue) (ht : raw.typed? = some (type, v)) :
    v.IsValue := by
  unfold typed? at ht
  split at ht
  · simp only [Option.bind_eq_bind, Option.bind_eq_some_iff, Option.pure_def, Option.some.injEq, Prod.mk.injEq] at ht
    obtain ⟨_, _, _, hv, _, _, _, rfl⟩ := ht
    exact isValue_of_get? h hv
  · obtain ⟨_, _, heq⟩ := Option.map_eq_some_iff.mp ht
    obtain ⟨-, rfl⟩ := Prod.mk.inj heq
    exact isValue_array.mp h _ (List.mem_cons_of_mem _ List.mem_cons_self)
  · cases ht

end Json

namespace Operand

/-- An operand as it is read from a value. -/
def IsRead : Operand → Prop
  | .block _ | .variable _ => True
  | .constant v => v.IsValue

theorem isRead_of_ofJson? {raw : Json} {o : Operand} (hv : raw.IsValue) (h : ofJson? raw = some o) : o.IsRead := by
  unfold ofJson? at h
  split at h
  · obtain rfl := Option.some.inj h
    trivial
  · obtain rfl := Option.some.inj h
    trivial
  · rename_i ht
    obtain rfl := Option.some.inj h
    exact Json.isValue_of_typed? hv ht
  · cases h

theorem ofJson?_toJson (o : Operand) : ofJson? o.toJson = some o := by
  cases o <;> rfl

theorem isValue_toJson {o : Operand} (h : o.IsRead) : o.toJson.IsValue := by
  cases o with
  | constant v => exact Json.isValue_withType h
  | _ => exact Json.isValue_withType trivial

end Operand

namespace Condition

mutual

/-- A condition as it is read from a value: what is malformed was read as such. -/
def IsRead : Condition → Prop
  | .always => True
  | .all parts => AreRead parts
  | .any parts => AreRead parts
  | .compare _ left right => left.IsRead ∧ right.IsRead
  | .malformed raw => raw.IsValue ∧ ofJson raw = .malformed raw

def AreRead : List Condition → Prop
  | [] => True
  | c :: rest => c.IsRead ∧ AreRead rest

end

/-! ### What is read -/

theorem ofOperands_isRead {op : Comparison} {raw : Json} {items : List Json} (hv : ∀ v ∈ items, v.IsValue)
    (hraw : ofOperands op raw items = .malformed raw → (malformed raw).IsRead) : (ofOperands op raw items).IsRead := by
  rcases items with _ | ⟨left, _ | ⟨right, rest⟩⟩
  · exact hraw rfl
  · exact hraw rfl
  · rw [List.forall_mem_cons, List.forall_mem_cons] at hv
    simp only [ofOperands] at hraw ⊢
    cases hl : Operand.ofJson? left with
    | none => exact hraw (by rw [hl])
    | some l =>
      cases hr : Operand.ofJson? right with
      | none => exact hraw (by rw [hl, hr])
      | some r => exact ⟨Operand.isRead_of_ofJson? hv.1 hl, Operand.isRead_of_ofJson? hv.2.1 hr⟩

theorem operands_isValue {members : List (String × Json)} (h : (Json.object members).IsValue) :
    ∀ v ∈ operands members, v.IsValue := by
  unfold operands
  cases hvars : Members.get? "vars" members with
  | none => exact List.forall_mem_nil _
  | some w =>
    have hw := Json.isValue_of_get? h hvars
    cases w with
    | array items => exact Json.isValue_array.mp hw
    | null | bool | int | float | text | object => exact List.forall_mem_nil _

mutual

theorem ofJson_isRead {v : Json} (h : v.IsValue) : (ofJson v).IsRead := by
  cases v with
  | null | bool | int | float | text | array => exact ⟨h, rfl⟩
  | object members =>
    -- What is malformed is the object itself, so that reading it again is the reading at hand.
    have hmalformed : ofJson (.object members) = .malformed (.object members) →
        (malformed (.object members)).IsRead := fun heq => ⟨h, heq⟩
    have hvars := operands_isValue h
    rw [Json.IsValue] at h
    have hparts := ofVars_areRead h.2
    rw [ofJson] at hmalformed ⊢
    split
    · trivial
    · exact hparts
    · exact hparts
    · rename_i op h₁ h₂ h₃ hop
      simp only [hop] at hmalformed
      cases hc : Comparison.ofName? op with
      | none => exact hmalformed (by rw [hc])
      | some c => exact ofOperands_isRead hvars fun heq => hmalformed (by rw [hc]; exact heq)
    · rename_i hop
      exact hmalformed (by rw [hop])

theorem ofVars_areRead {members : List (String × Json)} (h : Json.AreMemberValues members) :
    AreRead (ofVars members) := by
  cases members with
  | nil => trivial
  | cons m rest =>
    obtain ⟨name, v⟩ := m
    rw [Json.AreMemberValues] at h
    rw [ofVars]
    split
    · exact ofArray_areRead h.1
    · exact ofVars_areRead h.2

theorem ofArray_areRead {v : Json} (h : v.IsValue) : AreRead (ofArray v) := by
  cases v with
  | null | bool | int | float | text | object => trivial
  | array items =>
    rw [Json.IsValue] at h
    exact ofItems_areRead h

theorem ofItems_areRead {items : List Json} (h : Json.AreValues items) : AreRead (ofItems items) := by
  cases items with
  | nil => trivial
  | cons v rest =>
    rw [Json.AreValues] at h
    exact ⟨ofJson_isRead h.1, ofItems_areRead h.2⟩

end

/-! ### What is written -/

theorem isValue_object {op : String} {vars : List Json} (h : ∀ v ∈ vars, v.IsValue) : (object op vars).IsValue :=
  Json.isValue_object.mpr ⟨by simp [Members.names],
    List.forall_mem_cons.mpr ⟨trivial, List.forall_mem_singleton.mpr (Json.isValue_array.mpr h)⟩⟩

mutual

theorem isValue_toJson {c : Condition} (h : c.IsRead) : c.toJson.IsValue := by
  cases c with
  | always => exact isValue_object (List.forall_mem_nil _)
  | all parts => exact isValue_object (areValues_toItems h)
  | any parts => exact isValue_object (areValues_toItems h)
  | compare op left right =>
    rw [IsRead] at h
    refine isValue_object (List.forall_mem_cons.mpr ⟨Operand.isValue_toJson h.1, ?_⟩)
    exact List.forall_mem_singleton.mpr (Operand.isValue_toJson h.2)
  | malformed raw =>
    rw [IsRead] at h
    exact h.1

theorem areValues_toItems {cs : List Condition} (h : AreRead cs) : ∀ v ∈ toItems cs, v.IsValue := by
  cases cs with
  | nil => exact List.forall_mem_nil _
  | cons c rest =>
    rw [toItems, List.forall_mem_cons]
    exact ⟨isValue_toJson h.1, areValues_toItems h.2⟩

end

theorem ofJson_compare (op : Comparison) (left right : Operand) :
    ofJson (object op.name [left.toJson, right.toJson]) = .compare op left right := by
  have hoperands : ofOperands op (object op.name [left.toJson, right.toJson]) [left.toJson, right.toJson]
      = .compare op left right := by
    simp only [ofOperands, Operand.ofJson?_toJson]
  cases op <;> exact hoperands

mutual

/-- A condition is read again from what it is written as. -/
theorem ofJson_toJson {c : Condition} (h : c.IsRead) : ofJson c.toJson = c := by
  cases c with
  | always => rfl
  | all parts => exact congrArg all (ofItems_toItems h)
  | any parts => exact congrArg any (ofItems_toItems h)
  | compare op left right => exact ofJson_compare op left right
  | malformed raw =>
    rw [IsRead] at h
    exact h.2

theorem ofItems_toItems {cs : List Condition} (h : AreRead cs) : ofItems (toItems cs) = cs := by
  cases cs with
  | nil => rfl
  | cons c rest =>
    rw [toItems, ofItems, ofJson_toJson h.1, ofItems_toItems h.2]

end

end Condition

end Questionnaire
