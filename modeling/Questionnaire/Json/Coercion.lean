import Questionnaire.Json.Printer
import Questionnaire.Number.Literal

/-!
# Answers as texts and numbers

Answers are arbitrary values. They are read loosely: nothing and null are empty, a list is its joined items, and a
text that writes a number is that number. `Scalar` is what comparisons see of an answer.
-/

namespace Questionnaire

/-- Answers by the id of the block that they answer. -/
abbrev Answers := Entries Json

namespace Json

mutual

/-- A value as text: null is empty, a list is its items with commas between them. -/
def asText : Json → String
  | .null => ""
  | .bool b => if b then "true" else "false"
  | .int n => Number.text (Number.ofInt n)
  | .float x => Number.text x
  | .text s => s
  | .array items => String.intercalate "," (itemTexts items)
  | .object members => compact (.object members)

def itemTexts : List Json → List String
  | [] => []
  | v :: rest => v.asText :: itemTexts rest

end

/-- The items as texts with a separator between them. -/
def joined (separator : String) (items : List Json) : String := String.intercalate separator (itemTexts items)

/-- The number that a value is or writes. -/
def number? : Json → Option Float
  | .int n => some (Number.ofInt n)
  | .float x => some x
  | .text s => Number.ofText? s
  | _ => none

/-- Null, false, zero, what is not a number and the empty text do not count as an answer; all else does. -/
def isTruthy : Json → Bool
  | .null => false
  | .bool b => b
  | .int n => n != 0
  | .float x => x != 0 && !x.isNaN
  | .text s => !s.isEmpty
  | .array _ | .object _ => true

/-- Equality as list membership uses it: two numbers by what they count, all else exactly. -/
def sameItem (a b : Json) : Bool :=
  match a.float?, b.float? with
  | some x, some y => x == y
  | _, _ => a.same b

end Json

/-- What a comparison sees of a value. -/
inductive Scalar where
  | number (x : Float)
  | text (s : String)

namespace Scalar

/-- A text is a number if it writes one. -/
def ofText (s : String) : Scalar :=
  match Number.ofText? s with
  | some x => .number x
  | none => .text s

/-- A missing value is empty, like null; a list is text even where it writes a number. -/
def ofJson? : Option Json → Scalar
  | none | some .null => .text ""
  | some (.int n) => .number (Number.ofInt n)
  | some (.float x) => .number x
  | some (.array items) => .text (Json.joined "," items)
  | some v => ofText v.asText

/-- A number is never equal to a text. -/
def eq : Scalar → Scalar → Bool
  | .number x, .number y => x == y
  | .text s, .text t => s == t
  | _, _ => false

def asText : Scalar → String
  | .number x => Number.text x
  | .text s => s

/-- The order of two numbers; none if one of them is not a number. -/
def compareNumbers (x y : Float) : Option Ordering :=
  if x < y then some .lt else if x == y then some .eq else if y < x then some .gt else none

/-- Two numbers are ordered as numbers, all else as texts. -/
def compare : Scalar → Scalar → Option Ordering
  | .number x, .number y => compareNumbers x y
  | a, b => some (Ord.compare a.asText b.asText)

end Scalar

end Questionnaire
