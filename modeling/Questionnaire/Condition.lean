import Questionnaire.Variables

/-!
# Conditions

A condition is a tree of comparisons under `and` and `or`. It is read from a value without ever failing: what is
no condition becomes `malformed`, keeps its value, and never holds.
-/

namespace Questionnaire

/-- One side of a comparison. -/
inductive Operand where
  /-- The answer to a block. -/
  | block (id : String)
  | variable (name : String)
  | constant (v : Json)

inductive Comparison where
  | lt | lte | gt | gte | eq | neq
deriving DecidableEq, Repr

inductive Condition where
  | always
  /-- Every part holds. -/
  | all (parts : List Condition)
  /-- Some part holds. -/
  | any (parts : List Condition)
  | compare (op : Comparison) (left right : Operand)
  | malformed (raw : Json)

namespace Comparison

def name : Comparison → String
  | .lt => "lt"
  | .lte => "lte"
  | .gt => "gt"
  | .gte => "gte"
  | .eq => "eq"
  | .neq => "neq"

def ofName? (s : String) : Option Comparison :=
  [lt, lte, gt, gte, eq, neq].find? fun c => c.name == s

end Comparison

namespace Json

/-- The name of a choice, alone or as an object with nothing beside it. -/
def choice? : Json → Option String
  | .text s => some s
  | .object [(name, .null)] => some name
  | _ => none

/-- A value with a type beside it: an object with both, or a list of the two. -/
def typed? : Json → Option (String × Json)
  | .object members => do
    let type ← Members.get? "type" members
    let v ← Members.get? "value" members
    return (← type.choice?, v)
  | .array [type, v] => type.choice?.map (·, v)
  | _ => none

/-- The object of a value with its type. -/
def withType (type : String) (v : Json) : Json := .object [("type", .text type), ("value", v)]

end Json

namespace Operand

def ofJson? (raw : Json) : Option Operand :=
  match raw.typed? with
  | some ("block", .text id) => some (.block id)
  | some ("variable", .text name) => some (.variable name)
  | some ("constant", v) => some (.constant v)
  | _ => none

def toJson : Operand → Json
  | .block id => .withType "block" (.text id)
  | .variable name => .withType "variable" (.text name)
  | .constant v => .withType "constant" v

end Operand

namespace Condition

/-- A comparison of the first two operands; the rest are not looked at. -/
def ofOperands (op : Comparison) (raw : Json) : List Json → Condition
  | left :: right :: _ =>
    match Operand.ofJson? left, Operand.ofJson? right with
    | some l, some r => .compare op l r
    | _, _ => .malformed raw
  | _ => .malformed raw

/-- The operands that an object lists, none if it lists none. -/
def operands (members : List (String × Json)) : List Json :=
  ((Members.get? "vars" members).bind Json.array?).getD []

mutual

def ofJson : Json → Condition
  | .object members =>
    match (Members.get? "op" members).bind Json.text? with
    | some "always" => .always
    | some "and" => .all (ofVars members)
    | some "or" => .any (ofVars members)
    | some op =>
      match Comparison.ofName? op with
      | some c => ofOperands c (.object members) (operands members)
      | none => .malformed (.object members)
    | none => .malformed (.object members)
  | raw => .malformed raw

/-- The conditions that the member `vars` lists. -/
def ofVars : List (String × Json) → List Condition
  | [] => []
  | (name, v) :: rest => if name = "vars" then ofArray v else ofVars rest

def ofArray : Json → List Condition
  | .array items => ofItems items
  | _ => []

def ofItems : List Json → List Condition
  | [] => []
  | v :: rest => ofJson v :: ofItems rest

end

/-- The object of an operator with its operands. -/
def object (op : String) (vars : List Json) : Json := .object [("op", .text op), ("vars", .array vars)]

mutual

def toJson : Condition → Json
  | .always => object "always" []
  | .all parts => object "and" (toItems parts)
  | .any parts => object "or" (toItems parts)
  | .compare op left right => object op.name [left.toJson, right.toJson]
  | .malformed raw => raw

def toItems : List Condition → List Json
  | [] => []
  | c :: rest => c.toJson :: toItems rest

end

mutual

/-- The condition or one of its parts, at any depth, is malformed. -/
def isMalformed : Condition → Bool
  | .malformed _ => true
  | .all parts => anyMalformed parts
  | .any parts => anyMalformed parts
  | .always | .compare _ _ _ => false

def anyMalformed : List Condition → Bool
  | [] => false
  | c :: rest => c.isMalformed || anyMalformed rest

end

end Condition

end Questionnaire
