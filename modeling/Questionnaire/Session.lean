import Questionnaire.AutoAdvance
import Questionnaire.Rule.Outcome
import Questionnaire.Template
import Questionnaire.Validation

/-!
# Sessions

One person's way through a document: where the session is, the answers and variables so far, and the pages that it
can go back to. What happens to a session comes in sections, each of which sees and changes the session as a whole:
`record` an answer, `depart` from a page, `arrive` at the destination, go `back`.
-/

namespace Questionnaire

/-- A page as it is named to others. -/
structure PageRef where
  id : String
  index : Nat
  name : String
deriving DecidableEq, Repr

def Page.ref (p : Page) (index : Nat) : PageRef := ⟨p.id, index, p.name⟩

/-- The blocks of a page that are not hidden. -/
def Page.visible (p : Page) (hidden : List String) : List Block := p.blocks.filter fun b => b.id ∉ hidden

/-- The recorded answers of blocks. -/
def answersOf (blocks : List Block) (answers : Answers) : Answers :=
  Entries.ofList (blocks.filterMap fun b => (answers.get? b.id).map (b.id, ·))

/-- Where a session is in its life. -/
inductive Phase where
  /-- A page is shown and takes input. -/
  | active (index : Nat)
  /-- A page is being left. -/
  | transitioning (origin : Nat)
  /-- The session has ended at a page that leads elsewhere. -/
  | redirecting (url : String)
  | completed
deriving DecidableEq, Repr

namespace Phase

def isActive : Phase → Bool
  | active _ => true
  | _ => false

def isTerminal : Phase → Bool
  | redirecting _ | completed => true
  | _ => false

end Phase

/-- The answer to a call that asks to go on or back. -/
inductive Transition where
  /-- A transition is under way, the session has ended, or there is no way back. -/
  | ignored
  /-- The answers do not pass; the page stays. -/
  | invalid (complaints : Complaints)
  | moved (page : PageRef)
  | redirected (url : String)
  | completed

/-- What held on a page when it was left. -/
structure Snapshot where
  index : Nat
  vars : Variables
  hidden : List String

structure Session where
  phase : Phase := .active 0
  /-- The page that is shown or being left. -/
  index : Nat := 0
  answers : Answers
  vars : Variables
  hidden : List String := []
  /-- What the latest attempt to leave the page was told. -/
  complaints : Option Complaints := none
  /-- The pages to go back to, latest first. -/
  history : List Snapshot := []
  /-- The submissions that may be under way. -/
  pending : List Nat := []

/-- A page that has been left, with its answers. -/
structure Completion where
  page : PageRef
  answers : Answers

/-- Where a departure leads. -/
inductive Destination where
  | page (page : PageRef)
  | elsewhere (url : String)
  /-- Past the last page. -/
  | finish

/-- What was decided when a page was left. There is nothing to complete in a document without pages. -/
structure Departure where
  completion : Option Completion
  destination : Destination

/-- The answer to a request to leave the page. -/
inductive Decision where
  | ignored
  | invalid (complaints : Complaints)
  | departed (d : Departure)

/-- The active page, ready to be shown. -/
structure View where
  page : PageRef
  blocks : List Block
  buttonText : String
  complaints : Option Complaints
  /-- The share of the pages before this one. -/
  progress : Float

namespace Session

/-- The first page, with no trace of rules. -/
def start (d : Document) (answers : Answers) : Session := { answers := answers, vars := d.vars }

/-- The blocks that can be seen on a page. -/
def visible (d : Document) (index : Nat) (s : Session) : List Block :=
  ((d.pages[index]?).map fun p => p.visible s.hidden).getD []

/-- One answer recorded, and whether it ends the page: its block can be seen there and the page moves on by
itself. Nothing is recorded while no page is active. -/
def record (d : Document) (id : String) (v : Json) (s : Session) : Option (Session × Bool) :=
  match s.phase with
  | .active index =>
    let blocks := s.visible d index
    some ({ s with answers := s.answers.insert id v },
      (blocks.any fun b => b.id == id) && shouldAutoAdvance blocks)
  | _ => none

/-- The outcome of the rule of a page; without a rule nothing changes and nothing is hidden. -/
def outcome (d : Document) (page : Option Page) (s : Session) : Outcome :=
  match page.bind fun p => d.ruleFor? p.id with
  | some r => r.outcome s.answers s.vars
  | none => { vars := s.vars }

/-- The page to go to: the target of the jump if there is such a page, else the next one. -/
def nextIndex (d : Document) (index : Nat) (o : Outcome) : Nat :=
  (o.next.bind d.pageIndex?).getD (index + 1)

/-- An address that the page leads to comes before any jump. -/
def destination (d : Document) (index : Nat) (o : Outcome) : Destination :=
  match (d.pages[index]?).bind Page.redirect? with
  | some url => .elsewhere url
  | none =>
    let i := nextIndex d index o
    match d.pages[i]? with
    | some p => .page (p.ref i)
    | none => .finish

variable [Grammars] in
/-- An attempt to leave the active page with more answers. The answers are kept in any case. Where they pass, the
rule of the page has its effect, and the page can be gone back to as it was. -/
def depart (d : Document) (submitted : Answers) (s : Session) : Session × Decision :=
  match s.phase with
  | .active index =>
    let s := { s with answers := s.answers.extend submitted }
    let blocks := s.visible d index
    match validate blocks s.answers with
    | some complaints => ({ s with complaints := some complaints }, .invalid complaints)
    | none =>
      let page := d.pages[index]?
      let o := s.outcome d page
      ({ s with
          phase := .transitioning index
          complaints := none
          vars := o.vars
          hidden := o.hidden
          history := ⟨index, s.vars, s.hidden⟩ :: s.history },
        .departed ⟨page.map fun p => ⟨p.ref index, answersOf blocks s.answers⟩, destination d index o⟩)
  | _ => (s, .ignored)

/-- The end of a transition. -/
def arrive (destination : Destination) (s : Session) : Session :=
  match destination with
  | .page p => { s with index := p.index, phase := .active p.index }
  | .elsewhere url => { s with phase := .redirecting url }
  | .finish => { s with phase := .completed }

/-- Back to the page that the active one was reached from, with the variables and hidden blocks of that time. -/
def back (d : Document) (s : Session) : Session × Transition :=
  match s.phase, s.history with
  | .active _, snapshot :: rest =>
    let s := { s with
      phase := .active snapshot.index
      index := snapshot.index
      vars := snapshot.vars
      hidden := snapshot.hidden
      complaints := none
      history := rest }
    match d.pages[snapshot.index]? with
    | some p => (s, .moved (p.ref snapshot.index))
    | none => (s, .ignored)
  | _, _ => (s, .ignored)

/-- The active page as it is to be shown, if the session has not ended. -/
def view? (d : Document) (s : Session) : Option View :=
  if s.phase.isTerminal then none
  else
    (d.pages[s.index]?).map fun p =>
      { page := p.ref s.index
        blocks := (p.visible s.hidden).map (Block.resolve s.answers s.vars)
        buttonText := Template.resolveText s.answers s.vars p.buttonText
        complaints := s.complaints
        progress := Number.ofRatio s.index (max d.pageCount 1) }

end Session

end Questionnaire
