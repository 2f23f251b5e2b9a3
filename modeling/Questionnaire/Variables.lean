import Questionnaire.Json.Coercion

/-!
# Variables

A session carries variables that rules compute with. A variable holds a number or a text; where a number is
wanted, a text counts if it writes one, and everything else counts as zero.
-/

namespace Questionnaire

/-- What a variable holds. -/
inductive VariableValue where
  | number (x : Float)
  | text (s : String)

abbrev Variables := Entries VariableValue

namespace VariableValue

def number? : VariableValue → Option Float
  | .number x => some x
  | .text s => Number.ofText? s

/-- A number that is not finite has no value. -/
def toJson : VariableValue → Json
  | .number x => Json.ofFloat x
  | .text s => .text s

def display : VariableValue → String
  | .number x => Number.text x
  | .text s => s

end VariableValue

namespace Variables

/-- The number that a variable counts as. -/
def number (vars : Variables) (name : String) : Float := ((vars.get? name).bind VariableValue.number?).getD 0

def setNumber (vars : Variables) (name : String) (x : Float) : Variables := vars.insert name (.number x)

def toJson (vars : Variables) : Json := .object (vars.toList.map fun (name, v) => (name, v.toJson))

end Variables

end Questionnaire
