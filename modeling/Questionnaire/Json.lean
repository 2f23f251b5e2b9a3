import Questionnaire.Entries
import Questionnaire.Number.Binary

/-!
# Json values

The values that documents and answers are made of. A whole number written without a fraction is kept apart from
a float, because the two are different inside lists and objects; objects keep the order of their members.
-/

namespace Questionnaire

inductive Json where
  | null
  | bool (b : Bool)
  | int (n : Int)
  | float (x : Float)
  | text (s : String)
  | array (items : List Json)
  | object (members : List (String × Json))
deriving Inhabited

namespace Json

mutual

/-- Equality of values: numbers of one kind by value, objects whatever the order of their members. -/
def same : Json → Json → Bool
  | .null, .null => true
  | .bool a, .bool b => a == b
  | .int a, .int b => a == b
  | .float a, .float b => a == b
  | .text a, .text b => a == b
  | .array xs, .array ys => sameItems xs ys
  | .object xs, .object ys => xs.length == ys.length && sameMembers xs ys
  | _, _ => false

def sameItems : List Json → List Json → Bool
  | [], [] => true
  | x :: xs, y :: ys => x.same y && sameItems xs ys
  | _, _ => false

/-- Each member of the first list has an equal one in the second. -/
def sameMembers : List (String × Json) → List (String × Json) → Bool
  | [], _ => true
  | (name, x) :: xs, ys =>
    (match Members.get? name ys with
      | some y => x.same y
      | none => false) && sameMembers xs ys

end

/-- The member of an object; nothing else has members. -/
def get? (v : Json) (name : String) : Option Json :=
  match v with
  | .object members => Members.get? name members
  | _ => none

def text? : Json → Option String
  | .text s => some s
  | _ => none

def array? : Json → Option (List Json)
  | .array items => some items
  | _ => none

def bool? : Json → Option Bool
  | .bool b => some b
  | _ => none

/-- The number that a number value holds. -/
def float? : Json → Option Float
  | .int n => some (Number.ofInt n)
  | .float x => some x
  | _ => none

/-- A float as a value; what is no finite number has none and becomes null. -/
def ofFloat (x : Float) : Json := if x.isFinite then .float x else .null

end Json

end Questionnaire
