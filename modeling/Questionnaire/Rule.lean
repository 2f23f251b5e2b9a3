import Questionnaire.Condition

/-!
# Rules

A rule is the program of a page, run when the page is left: actions, each under a condition, that jump to a page,
hide a block or compute with variables.
-/

namespace Questionnaire

inductive ReferenceKind where
  | page | block | variable | unknown
deriving DecidableEq, Repr

/-- What an action is about. -/
structure Reference where
  kind : ReferenceKind
  id : String
deriving DecidableEq, Repr

inductive ActionKind where
  | jump | hide | add | subtract | multiply | divide | set | unknown
deriving DecidableEq, Repr

/-- The right side of an arithmetic action. -/
inductive ActionValue where
  | constant (v : Json)
  | variable (name : String)

structure ActionDetails where
  /-- Where a jump leads. -/
  jump : Option Reference := none
  target : Option Reference := none
  value : Option ActionValue := none

structure Action where
  kind : ActionKind
  condition : Condition
  details : ActionDetails

structure Rule where
  pageId : String
  actions : List Action

/-- The page that a well-formed jump leads to. -/
def Action.jumpTarget? (a : Action) : Option String :=
  match a.kind, a.details.jump with
  | .jump, some ⟨.page, id⟩ => some id
  | _, _ => none

/-- The block that a well-formed hide is about. -/
def Action.hideTarget? (a : Action) : Option String :=
  match a.kind, a.details.target with
  | .hide, some ⟨.block, id⟩ => some id
  | _, _ => none

end Questionnaire
