import Questionnaire.Rule.Outcome
import Mathlib.Data.List.Induction

/-!
# A rule runs as a sequential program

A rule may be cut anywhere: the actions before the cut run first, and those after it run on the variables that these
leave. Jumps and hides are collected on the side and no later action sees them, so whether an action fires depends on
the arithmetic before it alone. `Outcome.runs_in_sequence` is the law of the cut and what follows from it.
-/

namespace Questionnaire

/-! ### Sets of ids -/

theorem mem_insertId {id other : String} {ids : List String} : other ∈ insertId id ids ↔ other = id ∨ other ∈ ids := by
  unfold insertId
  by_cases h : id ∈ ids
  · rw [if_pos h]
    constructor
    · exact Or.inr
    · rintro (rfl | hother)
      · exact h
      · exact hother
  · rw [if_neg h, List.mem_append, List.mem_singleton, or_comm]

theorem insertId_of_mem {id : String} {ids : List String} (h : id ∈ ids) : insertId id ids = ids := if_pos h

theorem insertId_of_not_mem {id : String} {ids : List String} (h : id ∉ ids) : insertId id ids = ids ++ [id] := if_neg h

/-- A set of ids with all those of another. -/
def addIds (ids more : List String) : List String := more.foldl (fun ids id => insertId id ids) ids

@[simp] theorem addIds_nil (ids : List String) : addIds ids [] = ids := rfl

theorem addIds_concat (ids more : List String) (id : String) :
    addIds ids (more ++ [id]) = insertId id (addIds ids more) := by
  simp only [addIds, List.foldl_append, List.foldl_cons, List.foldl_nil]

theorem mem_addIds {id : String} {ids more : List String} : id ∈ addIds ids more ↔ id ∈ ids ∨ id ∈ more := by
  induction more using List.reverseRecOn with
  | nil => simp only [addIds_nil, List.not_mem_nil, or_false]
  | append_singleton more other ih =>
    rw [addIds_concat, mem_insertId, ih, List.mem_append, List.mem_singleton]
    constructor
    · rintro (h | h | h)
      · exact Or.inr (Or.inr h)
      · exact Or.inl h
      · exact Or.inr (Or.inl h)
    · rintro (h | h | h)
      · exact Or.inr (Or.inl h)
      · exact Or.inr (Or.inr h)
      · exact Or.inl h

theorem addIds_insertId (ids more : List String) (id : String) :
    addIds ids (insertId id more) = insertId id (addIds ids more) := by
  by_cases h : id ∈ more
  · have hmem : id ∈ addIds ids more := mem_addIds.mpr (Or.inr h)
    rw [insertId_of_mem h, insertId_of_mem hmem]
  · rw [insertId_of_not_mem h, addIds_concat]

/-! ### The cut -/

namespace Outcome

variable {answers : Answers} {vars : Variables} {actions : List Action} {a : Action}

/-- What a program comes to that runs the second one on the variables the first one leaves. -/
def andThen (o o' : Outcome) : Outcome where
  next := o.next <|> o'.next
  hidden := addIds o.hidden o'.hidden
  vars := o'.vars

theorem andThen_start (o : Outcome) : o.andThen { vars := o.vars } = o := by
  obtain ⟨next, hidden, vars⟩ := o
  cases next <;> rfl

/-- An action adds to what came before and never looks at it, the variables apart. -/
theorem step_andThen (answers : Answers) (o o' : Outcome) (a : Action) :
    Action.step answers (o.andThen o') a = o.andThen (Action.step answers o' a) := by
  have hvars : (o.andThen o').vars = o'.vars := rfl
  unfold Action.step
  rw [hvars]
  by_cases hholds : a.condition.holds answers o'.vars = true
  · rw [if_pos hholds, if_pos hholds]
    have hnext : ((o.andThen o').next <|> a.jumpTarget?) = (o.next <|> (o'.next <|> a.jumpTarget?)) := by
      cases hfirst : o.next <;> simp only [andThen, hfirst] <;> rfl
    unfold Action.fire
    rw [hnext, hvars]
    cases a.hideTarget? with
    | none => rfl
    | some id => simp only [andThen, addIds_insertId]
  · rw [if_neg hholds, if_neg hholds]

theorem foldl_step (answers : Answers) (o : Outcome) (actions : List Action) :
    actions.foldl (Action.step answers) o = o.andThen (ofActions actions answers o.vars) := by
  unfold ofActions
  -- From the end: the last action is the one that `step_andThen` takes into the second program.
  induction actions using List.reverseRecOn with
  | nil => exact (andThen_start o).symm
  | append_singleton actions a ih => simp only [List.foldl_append, List.foldl_cons, List.foldl_nil, ih, step_andThen]

theorem ofActions_append (before after : List Action) (answers : Answers) (vars : Variables) :
    ofActions (before ++ after) answers vars =
      (ofActions before answers vars).andThen (ofActions after answers (ofActions before answers vars).vars) := by
  rw [ofActions, List.foldl_append, foldl_step, ← ofActions]

theorem ofActions_concat (actions : List Action) (a : Action) (answers : Answers) (vars : Variables) :
    ofActions (actions ++ [a]) answers vars = Action.step answers (ofActions actions answers vars) a := by
  rw [ofActions, List.foldl_append, List.foldl_cons, List.foldl_nil, ← ofActions]

/-! ### Which actions fire -/

/-- Each action with whether it fires: its condition is judged on the variables that the actions before it leave. -/
def verdicts (actions : List Action) (answers : Answers) (vars : Variables) : List (Action × Bool) :=
  actions.mapIdx fun k a => (a, a.condition.holds answers (ofActions (actions.take k) answers vars).vars)

theorem verdicts_concat (actions : List Action) (a : Action) (answers : Answers) (vars : Variables) :
    verdicts (actions ++ [a]) answers vars =
      verdicts actions answers vars ++ [(a, a.condition.holds answers (ofActions actions answers vars).vars)] := by
  have hearlier : (actions.mapIdx fun k b =>
      (b, b.condition.holds answers (ofActions ((actions ++ [a]).take k) answers vars).vars)) =
      verdicts actions answers vars := by
    apply List.ext_getElem
    · simp only [verdicts, List.length_mapIdx]
    · intro k hk hk'
      have hle : k ≤ actions.length := Nat.le_of_lt (by rwa [List.length_mapIdx] at hk)
      simp only [verdicts, List.getElem_mapIdx, List.take_append_of_le_length hle]
  rw [verdicts, List.mapIdx_concat, hearlier, List.take_left]

/-- The jump is that of the first action that fires with one. -/
theorem next_eq (actions : List Action) (answers : Answers) (vars : Variables) :
    (ofActions actions answers vars).next =
      ((verdicts actions answers vars).filter Prod.snd).findSome? fun v => v.1.jumpTarget? := by
  induction actions using List.reverseRecOn with
  | nil => rfl
  | append_singleton actions a ih =>
    rw [ofActions_concat, verdicts_concat, List.filter_append, List.findSome?_append, ← ih, Action.step]
    cases hholds : a.condition.holds answers (ofActions actions answers vars).vars with
    | true =>
      have hlast : ([(a, true)].filter Prod.snd).findSome? (fun v => v.1.jumpTarget?) = a.jumpTarget? := by
        rw [List.filter_cons_of_pos rfl, List.filter_nil, List.findSome?_singleton]
      rw [if_pos rfl, hlast, Action.fire, Option.orElse_eq_orElse, Option.orElse_eq_or]
    | false =>
      rw [if_neg Bool.false_ne_true, List.filter_cons_of_neg Bool.false_ne_true, List.filter_nil, List.findSome?_nil,
        Option.or_none]

end Outcome

/-! ### Actions that compute nothing -/

/-- An action for the side: a jump or a hide, well-formed or not. -/
def Action.isAside (a : Action) : Bool := a.kind = .jump ∨ a.kind = .hide

theorem Action.compute_of_isAside {a : Action} (h : a.isAside = true) (vars : Variables) : a.compute vars = vars := by
  have hnone : ∀ current operand, a.kind.apply? current operand = none := by
    intro current operand
    rcases of_decide_eq_true h with hkind | hkind <;> rw [hkind] <;> rfl
  unfold compute
  split
  · rw [hnone]
  · rfl

theorem Action.step_vars_of_isAside {a : Action} (h : a.isAside = true) (answers : Answers) (o : Outcome) :
    (a.step answers o).vars = o.vars := by
  unfold step
  split
  · exact compute_of_isAside h o.vars
  · rfl

namespace Outcome

variable {answers : Answers} {vars : Variables} {actions actions' : List Action}

/-- Without its jumps and hides a program computes the same, and all its other actions fire as they did. -/
theorem of_filter_isAside (actions : List Action) (answers : Answers) (vars : Variables) :
    (ofActions (actions.filter fun a => !a.isAside) answers vars).vars = (ofActions actions answers vars).vars ∧
      verdicts (actions.filter fun a => !a.isAside) answers vars =
        (verdicts actions answers vars).filter fun v => !v.1.isAside := by
  induction actions using List.reverseRecOn with
  | nil => exact ⟨rfl, rfl⟩
  | append_singleton actions a ih =>
    obtain ⟨hvars, hverdicts⟩ := ih
    rw [List.filter_append, verdicts_concat, List.filter_append, ← hverdicts, ofActions_concat]
    by_cases haside : a.isAside = true
    · have hnone : [a].filter (fun a => !a.isAside) = [] := by simp only [List.filter_cons, haside]; rfl
      rw [hnone, List.append_nil, a.step_vars_of_isAside haside]
      refine ⟨hvars, ?_⟩
      simp only [List.filter_cons, haside]
      exact (List.append_nil _).symm
    · have hfalse : a.isAside = false := eq_false_of_ne_true haside
      have hself : [a].filter (fun a => !a.isAside) = [a] := by simp only [List.filter_cons, hfalse]; rfl
      rw [hself, ofActions_concat, verdicts_concat]
      constructor
      · -- the condition is judged, and the action computes, on the same variables
        simp only [Action.step, hvars]
        split
        · exact congrArg a.compute hvars
        · exact hvars
      · simp only [List.filter_cons, hfalse, hvars]
        rfl

theorem vars_eq_of_filter_eq (h : actions'.filter (fun a => !a.isAside) = actions.filter fun a => !a.isAside) :
    (ofActions actions' answers vars).vars = (ofActions actions answers vars).vars := by
  rw [← (of_filter_isAside actions' answers vars).1, h, (of_filter_isAside actions answers vars).1]

theorem verdicts_eq_of_filter_eq
    (h : actions'.filter (fun a => !a.isAside) = actions.filter fun a => !a.isAside) :
    (verdicts actions' answers vars).filter (fun v => !v.1.isAside) =
      (verdicts actions answers vars).filter fun v => !v.1.isAside := by
  rw [← (of_filter_isAside actions' answers vars).2, h, (of_filter_isAside actions answers vars).2]

/-- **A rule is a sequential program.** Run in two parts, the second part starts from the variables that the first one
leaves and has the last word on them; each part hides its blocks, and the second one jumps only if the first does not.
So the jump is that of the first action with one that fires on the variables left by the actions before it. And two
programs that differ in jumps and hides only, wherever these stand, leave the same variables, and the same ones of
their other actions fire. -/
theorem runs_in_sequence (answers : Answers) (vars : Variables) (before after : List Action) :
    let first := ofActions before answers vars
    let second := ofActions after answers first.vars
    let whole := ofActions (before ++ after) answers vars
    (whole.vars = second.vars ∧ (∀ id, id ∈ whole.hidden ↔ id ∈ first.hidden ∨ id ∈ second.hidden) ∧
      whole.next = first.next.or second.next) ∧
    whole.next = ((verdicts (before ++ after) answers vars).filter Prod.snd).findSome? (fun v => v.1.jumpTarget?) ∧
    ∀ others : List Action,
      (others.filter fun a => !a.isAside) = ((before ++ after).filter fun a => !a.isAside) →
      (ofActions others answers vars).vars = whole.vars ∧
        ((verdicts others answers vars).filter fun v => !v.1.isAside) =
          ((verdicts (before ++ after) answers vars).filter fun v => !v.1.isAside) := by
  intro first second whole
  have hwhole : whole = first.andThen second := ofActions_append before after answers vars
  refine ⟨⟨?_, ?_, ?_⟩, next_eq (before ++ after) answers vars, ?_⟩
  · rw [hwhole, andThen]
  · intro id
    rw [hwhole, andThen, mem_addIds]
  · rw [hwhole, andThen, Option.orElse_eq_orElse, Option.orElse_eq_or]
  · intro others hothers
    exact ⟨vars_eq_of_filter_eq hothers, verdicts_eq_of_filter_eq hothers⟩

/-- Five points more, whatever the answers. -/
def reward : Action where
  kind := .add
  condition := .always
  details := { target := some ⟨.variable, "score"⟩, value := some (.constant (.int 5)) }

/-- Who has five points goes on to the bonus. -/
def bonus : Action where
  kind := .jump
  condition := .compare .gte (.variable "score") (.constant (.int 5))
  details := { jump := some ⟨.page, "bonus"⟩ }

/-- The jump before the points does not fire and the one after them does; a program with the first jump only leaves
the same points. -/
theorem rewarded_in_sequence :
    (ofActions ([bonus, reward] ++ [bonus]) ∅ ∅).next = some "bonus" ∧
      ([bonus, reward].filter fun a => !a.isAside) = (([bonus, reward] ++ [bonus]).filter fun a => !a.isAside) ∧
      (ofActions [bonus, reward] ∅ ∅).vars = (ofActions ([bonus, reward] ++ [bonus]) ∅ ∅).vars ∧
      (ofActions [bonus, reward] ∅ ∅).next = none := by
  obtain ⟨-, -, others⟩ := runs_in_sequence ∅ ∅ [bonus, reward] [bonus]
  exact ⟨by decide +kernel, rfl, (others [bonus, reward] rfl).1, by decide +kernel⟩

end Outcome

end Questionnaire
