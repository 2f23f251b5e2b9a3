import Questionnaire.Condition

/-!
# When a condition holds

A condition is judged on the answers and the variables. Equality with a list means membership, on either side; all
other comparisons are comparisons of scalars.
-/

namespace Questionnaire

/-- The value of an operand, none if it names nothing that there is. -/
def Operand.resolve (answers : Answers) (vars : Variables) : Operand → Option Json
  | .constant v => some v
  | .block id => answers.get? id
  | .variable name => (vars.get? name).map VariableValue.toJson

/-- Some item of the list is the other side; nothing is in a list if it is missing. -/
def isItem (items : List Json) (needle : Option Json) : Bool :=
  match needle with
  | some v => items.any fun item => item.sameItem v
  | none => false

/-- Membership where one side is a list, the left side first. -/
def membership? : Option Json → Option Json → Option Bool
  | some (.array items), other => some (isItem items other)
  | other, some (.array items) => some (isItem items other)
  | _, _ => none

namespace Comparison

/-- The comparison of two scalars. -/
def scalars (op : Comparison) (a b : Scalar) : Bool :=
  match op with
  | .eq => a.eq b
  | .neq => !a.eq b
  | .lt => a.compare b == some .lt
  | .lte => a.compare b == some .lt || a.compare b == some .eq
  | .gt => a.compare b == some .gt
  | .gte => a.compare b == some .gt || a.compare b == some .eq

def holds (op : Comparison) (left right : Option Json) : Bool :=
  match op, membership? left right with
  | .eq, some b => b
  | .neq, some b => !b
  | op, _ => op.scalars (Scalar.ofJson? left) (Scalar.ofJson? right)

end Comparison

namespace Condition

mutual

def holds (answers : Answers) (vars : Variables) : Condition → Bool
  | .always => true
  | .all parts => allHold answers vars parts
  | .any parts => anyHolds answers vars parts
  | .compare op left right => op.holds (left.resolve answers vars) (right.resolve answers vars)
  | .malformed _ => false

def allHold (answers : Answers) (vars : Variables) : List Condition → Bool
  | [] => true
  | c :: rest => holds answers vars c && allHold answers vars rest

def anyHolds (answers : Answers) (vars : Variables) : List Condition → Bool
  | [] => false
  | c :: rest => holds answers vars c || anyHolds answers vars rest

end

end Condition

end Questionnaire
