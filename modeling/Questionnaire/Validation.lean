import Questionnaire.Document
import Questionnaire.Grammars

/-!
# Validation of answers

Each validation either passes or has a complaint. `validate` gathers the first complaint of each block; a block
without complaints does not appear.
-/

namespace Questionnaire

/-- What is wrong with an answer. -/
inductive Complaint where
  | missing
  | tooShort (least : Nat)
  | tooLong (most : Nat)
  | tooFewChoices (least : Nat)
  | tooManyChoices (most : Nat)
  | tooSmall (least : Float)
  | tooLarge (most : Float)
  | badFormat

/-- The first complaint of each block that has one. -/
abbrev Complaints := Entries Complaint

namespace Complaint

def options (n : Nat) : String := toString n ++ (if n = 1 then " option" else " options")

def message : Complaint → String
  | missing => "This field is required"
  | tooShort n => "Must be at least " ++ toString n ++ " characters"
  | tooLong n => "Must be at most " ++ toString n ++ " characters"
  | tooFewChoices n => "Select at least " ++ options n
  | tooManyChoices n => "Select at most " ++ options n
  | tooSmall x => "Must be at least " ++ Number.text x
  | tooLarge x => "Must be at most " ++ Number.text x
  | badFormat => "Invalid format"

end Complaint

/-- No answer, null, an empty text or an empty list. -/
def isBlankAnswer : Option Json → Bool
  | none | some .null | some (.text "") | some (.array []) => true
  | _ => false

def isTruthyAnswer (answer : Option Json) : Bool := (answer.map Json.isTruthy).getD false

def answerText (answer : Option Json) : String := (answer.map Json.asText).getD ""

/-- The number of characters of an answer as text. -/
def answerLength (answer : Option Json) : Nat := (answerText answer).length

/-- The number of picks: the items of a list, or one for any other answer that counts. -/
def choiceCount : Option Json → Nat
  | some (.array items) => items.length
  | answer => if isTruthyAnswer answer then 1 else 0

def answerNumber? (answer : Option Json) : Option Float := answer.bind Json.number?

variable [Grammars]

namespace Validation

/-- The complaint of a validation about an answer. A pattern that cannot be read has none. -/
def complaint? (v : Validation) (answer : Option Json) : Option Complaint :=
  match v with
  | required => if isBlankAnswer answer then some .missing else none
  | minLength n => if isTruthyAnswer answer && answerLength answer < n then some (.tooShort n) else none
  | maxLength n => if isTruthyAnswer answer && n < answerLength answer then some (.tooLong n) else none
  | minChoices n => if choiceCount answer < n then some (.tooFewChoices n) else none
  | maxChoices n => if n < choiceCount answer then some (.tooManyChoices n) else none
  | min x =>
    match answerNumber? answer with
    | some a => if a < x then some (.tooSmall x) else none
    | none => none
  | max x =>
    match answerNumber? answer with
    | some a => if x < a then some (.tooLarge x) else none
    | none => none
  | pattern source =>
    if isTruthyAnswer answer then
      match Grammars.compile source with
      | .ok fits => if fits (answerText answer) then none else some .badFormat
      | .error _ => none
    else none

end Validation

/-- The first complaint of a block about its answer. -/
def Block.complaint? (b : Block) (answers : Answers) : Option Complaint :=
  b.validations.findSome? fun v => v.complaint? (answers.get? b.id)

/-- The complaints of all blocks. -/
def complaints (blocks : List Block) (answers : Answers) : Complaints :=
  Entries.ofList (blocks.filterMap fun b => (b.complaint? answers).map (b.id, ·))

/-- The complaints, if there are any. -/
def validate (blocks : List Block) (answers : Answers) : Option Complaints :=
  let found := complaints blocks answers
  if found.isEmpty then none else some found

end Questionnaire
