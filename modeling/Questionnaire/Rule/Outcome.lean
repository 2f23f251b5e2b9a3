import Questionnaire.Rule
import Questionnaire.Condition.Evaluation

/-!
# What a rule does

Actions run in order. Arithmetic changes the variables that later conditions see; jumps and hides are collected on
the side. The first jump that fires decides.
-/

namespace Questionnaire

/-- The result of a rule. -/
structure Outcome where
  next : Option String := none
  /-- The blocks to hide on the next page, each once. -/
  hidden : List String := []
  vars : Variables

/-- A set of ids with one more. -/
def insertId (id : String) (ids : List String) : List String := if id ∈ ids then ids else ids ++ [id]

/-- The number on the right side of an arithmetic action. -/
def ActionValue.number (vars : Variables) : ActionValue → Float
  | .constant v => v.number?.getD 0
  | .variable name => vars.number name

/-- The result of an arithmetic action; a division by zero keeps the number. -/
def ActionKind.apply? (kind : ActionKind) (current operand : Float) : Option Float :=
  match kind with
  | .add => some (current + operand)
  | .subtract => some (current - operand)
  | .multiply => some (current * operand)
  | .divide => some (if operand == 0 then current else current / operand)
  | .set => some operand
  | .jump | .hide | .unknown => none

namespace Action

/-- The variables after an arithmetic action, which needs a variable as its target and a right side. -/
def compute (a : Action) (vars : Variables) : Variables :=
  match a.details.target, a.details.value with
  | some ⟨.variable, name⟩, some operand =>
    match a.kind.apply? (vars.number name) (operand.number vars) with
    | some x => vars.setNumber name x
    | none => vars
  | _, _ => vars

/-- The effect of an action whose condition holds. -/
def fire (a : Action) (o : Outcome) : Outcome :=
  { next := o.next <|> a.jumpTarget?
    hidden := match a.hideTarget? with
      | some id => insertId id o.hidden
      | none => o.hidden
    vars := a.compute o.vars }

def step (answers : Answers) (o : Outcome) (a : Action) : Outcome :=
  if a.condition.holds answers o.vars then a.fire o else o

end Action

def Outcome.ofActions (actions : List Action) (answers : Answers) (vars : Variables) : Outcome :=
  actions.foldl (Action.step answers) { vars := vars }

def Rule.outcome (r : Rule) (answers : Answers) (vars : Variables) : Outcome :=
  Outcome.ofActions r.actions answers vars

end Questionnaire
