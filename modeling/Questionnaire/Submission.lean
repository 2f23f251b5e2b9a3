import Questionnaire.Document.Reading
import Questionnaire.Submission.Instant
import Questionnaire.Submission.SessionId

/-!
# Submissions

The answers that one completed page hands on, with the session that they come from.
-/

namespace Questionnaire

/-- One answered block. -/
structure Submission.Answer where
  blockId : String
  value : Json

structure Submission where
  documentId : String
  sessionId : SessionId
  answers : List Submission.Answer
  submittedAt : Instant

namespace Submission

def Answer.toJson (a : Answer) : Json := .object [("blockId", .text a.blockId), ("value", a.value)]

def toJson (s : Submission) : Json :=
  .object [("documentId", .text s.documentId), ("sessionId", .text s.sessionId.text),
    ("answers", .array (s.answers.map Answer.toJson)), ("submittedAt", .text s.submittedAt.text)]

open Draft Reading

/-- A text in a format of its own. -/
def formatted {α : Type} (ofText? : String → Option α) (d : Draft) : Except ReadError α := do
  match ofText? (← readText d) with
  | some a => return a
  | none => throw .unreadable

structure AnswerParts where
  blockId : Option String := none
  value : Option Json := none

def Answer.read (d : Draft) : Except ReadError Answer := do
  let parts ← readRecord .json
    ⟨"struct Answer",
      [field ["blockId"] AnswerParts.blockId (fun p i => { p with blockId := some i }) readText false,
       field ["value"] AnswerParts.value (fun p v => { p with value := some v }) readAny false]⟩ {} d
  return ⟨← required "blockId" parts.blockId, ← required "value" parts.value⟩

structure Parts where
  documentId : Option String := none
  sessionId : Option SessionId := none
  answers : Option (List Answer) := none
  submittedAt : Option Instant := none

def read (d : Draft) : Except ReadError Submission := do
  let parts ← readRecord .json
    ⟨"struct Submission",
      [field ["documentId"] Parts.documentId (fun p i => { p with documentId := some i }) readText false,
       field ["sessionId"] Parts.sessionId (fun p i => { p with sessionId := some i })
        (formatted SessionId.ofText?) false,
       field ["answers"] Parts.answers (fun p a => { p with answers := some a }) (readList Answer.read) false,
       field ["submittedAt"] Parts.submittedAt (fun p t => { p with submittedAt := some t })
        (formatted Instant.ofText?) false]⟩ {} d
  return ⟨← required "documentId" parts.documentId, ← required "sessionId" parts.sessionId,
    ← required "answers" parts.answers, ← required "submittedAt" parts.submittedAt⟩

/-- The submission that a Json text writes. -/
def ofJsonText (s : String) : Except ReadError Submission := Draft.readJsonText read s

end Submission

end Questionnaire
