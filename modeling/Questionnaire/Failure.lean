import Questionnaire.Reading

/-!
# Failures

What can go wrong around documents: in their authorship, in the settings, and in what a session is connected to.
A session itself never fails.
-/

namespace Questionnaire

/-- A defect of a document. Sessions put up with all of them. -/
inductive Defect where
  | empty
  | duplicatePage (page : String)
  | duplicateBlock (block page : String)
  | danglingRule (page : String)
  | duplicateRule (page : String)
  | unknownJumpTarget (page target : String)
  | malformedCondition (page : String) (action : Nat)
  | invalidPattern (block message : String)
  | invalidRedirect (page url : String)
  | validationsWithoutInput (block : String)
  | unknownHideTarget (page block : String)
deriving DecidableEq, Repr

namespace Defect

def quote (s : String) : String := "'" ++ s ++ "'"

def message : Defect → String
  | empty => "Document has no pages"
  | duplicatePage page => "Duplicate page id: " ++ page
  | duplicateBlock block page =>
    "Block id " ++ quote block ++ " is used more than once (again on page " ++ quote page ++ ")"
  | danglingRule page => "Rule references unknown page " ++ quote page
  | duplicateRule page => "More than one rule is bound to page " ++ quote page
  | unknownJumpTarget page target => "Rule for page " ++ quote page ++ " jumps to unknown page " ++ quote target
  | malformedCondition page action =>
    "Rule for page " ++ quote page ++ " has a malformed condition on action " ++ toString action
  | invalidPattern block message => "Block " ++ quote block ++ " has an invalid pattern: " ++ message
  | invalidRedirect page url => "Page " ++ quote page ++ " has an invalid redirect URL " ++ quote url
  | validationsWithoutInput block => "Block " ++ quote block ++ " takes no input but declares validations"
  | unknownHideTarget page block => "Rule for page " ++ quote page ++ " hides unknown block " ++ quote block

end Defect

inductive Failure where
  | config (message : String)
  | defect (d : Defect)
  | store (message : String)
  | submission (sink message : String)
  | io (message : String)
  | json (problem : ReadError)
  | yaml
  | http
  | other (message : String)

/-- The wording of a failure; what the reading of a text is about has its wording elsewhere. -/
def Failure.message : Failure → String
  | .config message => "Configuration error: " ++ message
  | .defect d => "Document error: " ++ d.message
  | .store message => "Value store error: " ++ message
  | .submission sink message => "Submission to " ++ sink ++ " failed: " ++ message
  | .io message => message
  | .json problem => problem.message
  | .yaml => ""
  | .http => ""
  | .other message => message

end Questionnaire
