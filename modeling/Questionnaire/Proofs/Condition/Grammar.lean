import Questionnaire.Condition.Evaluation
import Questionnaire.Proofs.Document.Defects

/-!
# The grammar of conditions

A condition is written as an object with an operator: `always`, a comparison with two operands that can be read, or
`and` and `or` with a list of conditions. Reading takes everything of this grammar and nothing else, but for one thing:
`and` and `or` need no list. Where it is missing, or is no list, they are read as if it were empty. Such a group is not
malformed; an `and` without a list holds whatever the answers are, and nobody is told.
-/

namespace Questionnaire

namespace Condition

/-! ### What is a condition -/

/-- The operators that join conditions. -/
def Joins (op : String) : Prop := op = "and" ∨ op = "or"

def HasOp (op : String) (members : List (String × Json)) : Prop := Members.get? "op" members = some (.text op)

def Lists (items : List Json) (members : List (String × Json)) : Prop :=
  Members.get? "vars" members = some (.array items)

/-- There is no list of what an operator is about. -/
def Unlisted (members : List (String × Json)) : Prop := ∀ items, ¬ Lists items members

/-- How a condition is to be written: whether a group may do without its list. -/
inductive Manner where
  | strict | lenient

/-- The grammar of conditions. -/
inductive IsCondition (manner : Manner) : Json → Prop
  | always {members} : HasOp "always" members → IsCondition manner (.object members)
  | group {op members items} : Joins op → HasOp op members → Lists items members →
      (∀ v ∈ items, IsCondition manner v) → IsCondition manner (.object members)
  | unlisted {op members} : manner = .lenient → Joins op → HasOp op members → Unlisted members →
      IsCondition manner (.object members)
  | comparison {members left right rest} {c : Comparison} : HasOp c.name members →
      Lists (left :: right :: rest) members → (Operand.ofJson? left).isSome = true →
      (Operand.ofJson? right).isSome = true → IsCondition manner (.object members)

/-- The value itself or, if it is a group, a value among those that it lists, at any depth. -/
inductive Within (part : Json) : Json → Prop
  | refl : Within part part
  | group {op members items v} : Joins op → HasOp op members → Lists items members → v ∈ items → Within part v →
      Within part (.object members)

/-- A group without a list of what it joins. -/
def IsUnlisted (op : String) (raw : Json) : Prop :=
  ∃ members, raw = .object members ∧ Joins op ∧ HasOp op members ∧ Unlisted members

section
variable {op : String} {members : List (String × Json)} {items : List Json}

theorem HasOp.unique {op' : String} (h : HasOp op members) (h' : HasOp op' members) : op' = op := by
  rw [HasOp, h] at h'
  cases h'
  rfl

theorem Lists.unique {items' : List Json} (h : Lists items members) (h' : Lists items' members) : items' = items := by
  rw [Lists, h] at h'
  cases h'
  rfl

theorem not_joins_name (c : Comparison) : ¬ Joins c.name := by
  rintro (h | h) <;> cases c <;> contradiction

theorem not_joins_always : ¬ Joins "always" := by
  rintro (h | h) <;> contradiction

end

/-! ### Reading an object -/

section
variable {op : String} {members : List (String × Json)} {items : List Json}

theorem operands_of_lists (h : Lists items members) : operands members = items := by
  rw [operands, h]
  rfl

theorem operands_of_unlisted (h : Unlisted members) : operands members = [] := by
  unfold operands
  cases hvars : Members.get? "vars" members with
  | none => rfl
  | some v =>
    cases v with
    | array items => exact absurd hvars (h items)
    | _ => rfl

theorem lists_or_unlisted (members : List (String × Json)) : (∃ items, Lists items members) ∨ Unlisted members := by
  by_cases h : ∃ items, Lists items members
  · exact Or.inl h
  · exact Or.inr (not_exists.mp h)

theorem ofItems_eq_map (items : List Json) : ofItems items = items.map ofJson := by
  induction items with
  | nil => rfl
  | cons v rest ih => rw [ofItems, ih, List.map_cons]

theorem ofVars_eq_map (members : List (String × Json)) : ofVars members = (operands members).map ofJson := by
  induction members with
  | nil => rfl
  | cons m rest ih =>
    obtain ⟨name, v⟩ := m
    rw [ofVars]
    split
    · rename_i hname
      have hget : Members.get? "vars" ((name, v) :: rest) = some v := by rw [Members.get?, if_pos hname]
      cases v with
      | array items => rw [operands_of_lists hget, ofArray, ofItems_eq_map]
      | _ => rw [operands, hget]; rfl
    · rename_i hname
      have hget : Members.get? "vars" ((name, v) :: rest) = Members.get? "vars" rest := by
        rw [Members.get?, if_neg hname]
      rw [ih, operands, operands, hget]

theorem ofJson_of_always (h : HasOp "always" members) : ofJson (.object members) = .always := by
  rw [HasOp] at h
  rw [ofJson, h]
  rfl

theorem ofJson_of_and (h : HasOp "and" members) : ofJson (.object members) = .all ((operands members).map ofJson) := by
  rw [HasOp] at h
  rw [ofJson, h, ofVars_eq_map]
  rfl

theorem ofJson_of_or (h : HasOp "or" members) : ofJson (.object members) = .any ((operands members).map ofJson) := by
  rw [HasOp] at h
  rw [ofJson, h, ofVars_eq_map]
  rfl

theorem ofJson_of_comparison {c : Comparison} (h : HasOp c.name members) :
    ofJson (.object members) = ofOperands c (.object members) (operands members) := by
  rw [HasOp] at h
  rw [ofJson, h]
  cases c <;> rfl

/-- An object is a condition by its operator, or it is malformed. -/
theorem ofJson_object (members : List (String × Json)) :
    HasOp "always" members ∨ (∃ op, Joins op ∧ HasOp op members) ∨ (∃ c : Comparison, HasOp c.name members) ∨
      ofJson (.object members) = .malformed (.object members) := by
  cases hop : (Members.get? "op" members).bind Json.text? with
  | none =>
    refine Or.inr (Or.inr (Or.inr ?_))
    rw [ofJson, hop]
  | some op =>
    have hhas : HasOp op members := by
      obtain ⟨v, hv, htext⟩ := Option.bind_eq_some_iff.mp hop
      cases v with
      | text s =>
        obtain rfl := Option.some.inj htext
        exact hv
      | _ => cases htext
    by_cases halways : op = "always"
    · exact Or.inl (halways ▸ hhas)
    by_cases hjoins : Joins op
    · exact Or.inr (Or.inl ⟨op, hjoins, hhas⟩)
    refine Or.inr (Or.inr ?_)
    cases hc : Comparison.ofName? op with
    | some c =>
      have hname : c.name = op := by simpa using List.find?_some hc
      exact Or.inl ⟨c, hname ▸ hhas⟩
    | none =>
      refine Or.inr ?_
      rw [ofJson, hop]
      split
      · rename_i h
        exact absurd (Option.some.inj h) halways
      · rename_i h
        exact absurd (Or.inl (Option.some.inj h)) hjoins
      · rename_i h
        exact absurd (Or.inr (Option.some.inj h)) hjoins
      · rename_i op' _ _ _ h
        cases h
        rw [hc]
      · rfl

theorem isMalformed_ofJson_group (hjoins : Joins op) (hop : HasOp op members) :
    (ofJson (.object members)).isMalformed = false ↔ ∀ v ∈ operands members, (ofJson v).isMalformed = false := by
  have hany : ∀ items : List Json,
      anyMalformed (items.map ofJson) = false ↔ ∀ v ∈ items, (ofJson v).isMalformed = false := by
    intro items
    induction items with
    | nil => exact iff_of_true rfl (List.forall_mem_nil _)
    | cons v rest ih => rw [List.map_cons, anyMalformed, Bool.or_eq_false_iff, ih, List.forall_mem_cons]
  rcases hjoins with rfl | rfl
  · rw [ofJson_of_and hop, isMalformed, hany]
  · rw [ofJson_of_or hop, isMalformed, hany]

theorem isMalformed_ofOperands {c : Comparison} {raw : Json} :
    (ofOperands c raw items).isMalformed = false ↔ ∃ left right rest, items = left :: right :: rest ∧
      (Operand.ofJson? left).isSome = true ∧ (Operand.ofJson? right).isSome = true := by
  rcases items with _ | ⟨left, _ | ⟨right, rest⟩⟩
  · simp [ofOperands, isMalformed]
  · simp [ofOperands, isMalformed]
  · cases hl : Operand.ofJson? left with
    | none => simp [ofOperands, isMalformed, hl]
    | some l =>
      cases hr : Operand.ofJson? right with
      | none => simp [ofOperands, isMalformed, hl, hr]
      | some r =>
        refine iff_of_true ?_ ⟨left, right, rest, rfl, Option.isSome_of_eq_some hl, Option.isSome_of_eq_some hr⟩
        simp only [ofOperands, hl, hr, isMalformed]

end

/-! ### What is read -/

theorem sizeOf_lt_of_get? {name : String} {v : Json} {members : List (String × Json)}
    (h : Members.get? name members = some v) : sizeOf v < sizeOf members := by
  have hmem := List.sizeOf_lt_of_mem (Members.mem_of_get? h)
  simp only [Prod.mk.sizeOf_spec] at hmem
  omega

theorem isCondition_of_read : ∀ raw : Json, (ofJson raw).isMalformed = false → IsCondition .lenient raw
  | .null, h | .bool _, h | .int _, h | .float _, h | .text _, h | .array _, h => nomatch h
  | .object members, h => by
    rcases ofJson_object members with halways | ⟨op, hjoins, hop⟩ | ⟨c, hop⟩ | hmalformed
    · exact .always halways
    · rw [isMalformed_ofJson_group hjoins hop] at h
      rcases lists_or_unlisted members with ⟨items, hlists⟩ | hunlisted
      · rw [operands_of_lists hlists] at h
        exact .group hjoins hop hlists fun v hv => isCondition_of_read v (h v hv)
      · exact .unlisted rfl hjoins hop hunlisted
    · rw [ofJson_of_comparison hop, isMalformed_ofOperands] at h
      obtain ⟨left, right, rest, hitems, hl, hr⟩ := h
      rcases lists_or_unlisted members with ⟨items, hlists⟩ | hunlisted
      · rw [operands_of_lists hlists] at hitems
        exact .comparison hop (hitems ▸ hlists) hl hr
      · rw [operands_of_unlisted hunlisted] at hitems
        cases hitems
    · rw [hmalformed] at h
      cases h
termination_by raw => sizeOf raw
decreasing_by
  have hitems := sizeOf_lt_of_get? hlists
  have hmem := List.sizeOf_lt_of_mem hv
  simp only [Json.array.sizeOf_spec, Json.object.sizeOf_spec] at hitems ⊢
  omega

theorem IsCondition.read {manner : Manner} {raw : Json} (h : IsCondition manner raw) :
    (ofJson raw).isMalformed = false := by
  induction h with
  | always hop =>
    rw [ofJson_of_always hop]
    rfl
  | group hjoins hop hlists _ ih =>
    rw [isMalformed_ofJson_group hjoins hop, operands_of_lists hlists]
    exact ih
  | unlisted _ hjoins hop hunlisted =>
    rw [isMalformed_ofJson_group hjoins hop, operands_of_unlisted hunlisted]
    exact List.forall_mem_nil _
  | comparison hop hlists hl hr =>
    rw [ofJson_of_comparison hop, operands_of_lists hlists, isMalformed_ofOperands]
    exact ⟨_, _, _, rfl, hl, hr⟩

/-! ### Groups without a list -/

theorem IsCondition.listed {raw part : Json} (h : IsCondition .strict raw) (hpart : Within part raw) (op : String) :
    ¬ IsUnlisted op part := by
  induction h with
  | always hop =>
    cases hpart with
    | refl =>
      rintro ⟨members, hmembers, hjoins, hop', -⟩
      cases hmembers
      exact not_joins_always (hop.unique hop' ▸ hjoins)
    | group hjoins hop' => exact absurd (hop.unique hop' ▸ hjoins) not_joins_always
  | group hjoins hop hlists _ ih =>
    cases hpart with
    | refl =>
      rintro ⟨members, hmembers, -, -, hunlisted⟩
      cases hmembers
      exact hunlisted _ hlists
    | group _ _ hlists' hv hpart => exact ih _ (hlists.unique hlists' ▸ hv) hpart
  | unlisted hmanner => cases hmanner
  | comparison hop =>
    cases hpart with
    | refl =>
      rintro ⟨members, hmembers, hjoins, hop', -⟩
      cases hmembers
      exact not_joins_name _ (hop.unique hop' ▸ hjoins)
    | group hjoins hop' => exact absurd (hop.unique hop' ▸ hjoins) (not_joins_name _)

theorem IsCondition.strict {raw : Json} (h : IsCondition .lenient raw)
    (hlisted : ∀ part, Within part raw → ∀ op, ¬ IsUnlisted op part) : IsCondition .strict raw := by
  induction h with
  | always hop => exact .always hop
  | group hjoins hop hlists _ ih =>
    refine .group hjoins hop hlists fun v hv => ih v hv fun part hpart => ?_
    exact hlisted part (.group hjoins hop hlists hv hpart)
  | unlisted _ hjoins hop hunlisted => exact absurd ⟨_, rfl, hjoins, hop, hunlisted⟩ (hlisted _ .refl _)
  | comparison hop hlists hl hr => exact .comparison hop hlists hl hr

theorem IsUnlisted.ofJson {op : String} {raw : Json} (h : IsUnlisted op raw) :
    ofJson raw = if op = "and" then .all [] else .any [] := by
  obtain ⟨members, rfl, rfl | rfl, hop, hunlisted⟩ := h
  · rw [ofJson_of_and hop, operands_of_unlisted hunlisted]
    rfl
  · rw [ofJson_of_or hop, operands_of_unlisted hunlisted]
    rfl

/-- **Every condition is read, and a group without a list as well.** A value is read without a malformed part exactly
if it is a condition of the lenient grammar; the strict grammar is what is left if no group anywhere in it does without
its list. Such a group is read as an empty one: an `and` holds and an `or` does not, whatever the answers are, and in an
action of a rule it is not reported. -/
theorem read_iff_isCondition (raw : Json) :
    ((ofJson raw).isMalformed = false ↔ IsCondition .lenient raw) ∧
    (IsCondition .strict raw ↔
      (ofJson raw).isMalformed = false ∧ ∀ part, Within part raw → ∀ op, ¬ IsUnlisted op part) ∧
    (∀ (d : Document) pageId n kind details,
      .malformedCondition pageId n ∈ Checker.actionDefects d pageId n ⟨kind, ofJson raw, details⟩ ↔
        ¬ IsCondition .lenient raw) ∧
    ∀ op, IsUnlisted op raw → IsCondition .lenient raw ∧
      ∀ answers vars, (ofJson raw).holds answers vars = decide (op = "and") := by
  have hread : (ofJson raw).isMalformed = false ↔ IsCondition .lenient raw :=
    ⟨isCondition_of_read raw, IsCondition.read⟩
  refine ⟨hread, ?_, ?_, ?_⟩
  · constructor
    · intro h
      exact ⟨h.read, fun part hpart => h.listed hpart⟩
    · rintro ⟨h, hlisted⟩
      exact (hread.mp h).strict hlisted
  · intro d pageId n kind details
    rw [Checker.mem_actionDefects, ← hread, Bool.not_eq_false, isMalformed_iff]
    constructor
    · intro h
      cases h with
      | condition hpart => exact ⟨_, hpart⟩
    · rintro ⟨part, hpart⟩
      exact .condition hpart
  · intro op hunlisted
    rw [← hread, hunlisted.ofJson]
    by_cases hop : op = "and"
    · rw [if_pos hop]
      exact ⟨rfl, fun _ _ => (decide_eq_true hop).symm⟩
    · rw [if_neg hop]
      exact ⟨rfl, fun _ _ => (decide_eq_false hop).symm⟩

/-- A group that names its operator and nothing else. -/
def bare (op : String) : Json := .object [("op", .text op)]

theorem isUnlisted_bare {op : String} (h : Joins op) : IsUnlisted op (bare op) :=
  ⟨_, rfl, h, rfl, fun items hlists => by cases hlists⟩

theorem read_iff_isCondition_of_bare_or :
    IsUnlisted "or" (bare "or") ∧ (ofJson (bare "or")).isMalformed = false ∧ ¬ IsCondition .strict (bare "or") ∧
      (ofJson (bare "or")).holds ∅ ∅ = false := by
  have hunlisted : IsUnlisted "or" (bare "or") := isUnlisted_bare (Or.inr rfl)
  obtain ⟨hread, hstrict, -, hgroup⟩ := read_iff_isCondition (bare "or")
  obtain ⟨hlenient, hholds⟩ := hgroup "or" hunlisted
  exact ⟨hunlisted, hread.mpr hlenient, fun h => (hstrict.mp h).2 _ .refl _ hunlisted, hholds ∅ ∅⟩

/-- An `and` without a list is no condition of the strict grammar; still it is read, and it holds. -/
theorem bare_and_is_read :
    ¬ ((ofJson (bare "and")).isMalformed = false ↔ IsCondition .strict (bare "and")) ∧
      ∀ answers vars, (ofJson (bare "and")).holds answers vars = true := by
  have hunlisted : IsUnlisted "and" (bare "and") := isUnlisted_bare (Or.inl rfl)
  refine ⟨fun h => ?_, fun answers vars => ?_⟩
  · have hread : (ofJson (bare "and")).isMalformed = false := by rw [hunlisted.ofJson]; rfl
    exact (h.mp hread).listed .refl _ hunlisted
  · rw [hunlisted.ofJson]
    rfl

end Condition

end Questionnaire
