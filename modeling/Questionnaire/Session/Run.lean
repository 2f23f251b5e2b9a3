import Questionnaire.Cache
import Questionnaire.Session
import Questionnaire.Submission

/-!
# Runs of a session

A session among those it works with: the calls that are made to it, the cache of its answers, the sink for the
answers of completed pages, and the observer that is told of its progress. A call goes through stages, and each
stage is one section of the session with what follows from it; any number of calls may be at any stage, and their
sections may follow each other in any order. `Run.move?` says which moves there are and what each one does.
-/

namespace Questionnaire

/-- Where the answers of completed pages go. Submissions are counted in the order in which they are made. -/
structure Sink where
  time : Nat → Nat := fun _ => 0
  accepts : Nat → Bool := fun _ => true

/-- What is asked of a session. -/
inductive Call where
  | next (submitted : Answers)
  | set (id : String) (v : Json)
  | previous

/-- What calls from inside the observer are answered: where the session is, and then each call in turn. -/
structure Reentry where
  phase : Phase
  answers : List (Option Transition)

/-- What the observer is told. -/
inductive Event where
  | completed (c : Completion)
  | reentered (r : Reentry)
  | changed (page : PageRef)
  /-- The end, with the number of submissions that have arrived by then. -/
  | finished (answers : Answers) (redirect : Option String) (arrived : Nat)

/-- Who is told of the progress of a session. -/
structure Observer where
  /-- How long the observer takes over the end of the session. -/
  time : Nat := 0
  /-- Whether it then fails. -/
  fails : Bool := false
  /-- The calls that it makes while it is told of a completed page, by all that it has been told by then. -/
  inside : List Event → List Call := fun _ => []

/-- What comes of telling the observer of the end. -/
def Observer.reply (o : Observer) : Except Unit Unit := if o.fails then .error () else .ok ()

/-- What a session runs with. -/
structure Setup where
  document : Document
  /-- The id under which the session hands on its answers. -/
  sessionId : SessionId := ⟨0⟩
  sink : Option Sink := none
  observer : Observer := {}
  /-- How long a write to the cache waits for a newer one. -/
  window : Nat
  conduct : Conduct := {}
  /-- The date and the time of day when the clock of the run shows a time. -/
  calendar : Nat → Instant := fun _ => ⟨⟨1970, 1, 1⟩, 0, 0, 0⟩

/-- A submission on its way. -/
structure Delivery where
  submission : Submission
  /-- When the sink is done with it. -/
  due : Nat
  /-- Whether the sink accepted it, once it is done. -/
  accepted : Option Bool := none

def Delivery.isDone (d : Delivery) : Bool := d.accepted.isSome

/-- How far a call has come: what its next section will be. -/
inductive Stage where
  | record (id : String) (v : Json)
  | depart (submitted : Answers)
  | back
  /-- The submission of the page is to be noted as under way. -/
  | note (delivery : Nat) (destination : Destination)
  | arrive (destination : Destination)
  /-- The session has ended; what is under way is to be taken over. -/
  | settle (redirect : Option String)
  /-- The submissions under way are to be finished. -/
  | await (deliveries : List Nat) (answers : Answers) (redirect : Option String)
  /-- The observer is told of the end. -/
  | tell (answers : Answers) (redirect : Option String) (due : Nat)
  /-- The removal of the cached answers stands in line. -/
  | clear (generation : Nat) (redirect : Option String)
  /-- Nothing for a call that was only to record an answer. -/
  | done (result : Option Transition)

def Call.stage : Call → Stage
  | .next submitted => .depart submitted
  | .set id v => .record id v
  | .previous => .back

/-- The most sections that a call at this stage may still go through. -/
def Stage.rank : Stage → Nat
  | record _ _ => 8
  | depart _ => 7
  | back => 1
  | note _ _ => 6
  | arrive _ => 5
  | settle _ => 4
  | await _ _ _ => 3
  | tell _ _ _ => 2
  | clear _ _ => 1
  | done _ => 0

structure Run where
  session : Session
  cache : Cache
  /-- Every submission that was made. -/
  deliveries : List Delivery := []
  /-- The submissions that have arrived at the sink, by number, in the order of their arrival. -/
  arrived : List Nat := []
  /-- What the observer was told, from the beginning. -/
  events : List Event := []
  /-- Every call that was made, with the stage that it has come to. -/
  calls : List Stage := []
  /-- The time, in milliseconds. -/
  clock : Nat := 0

/-- The answers that a decision gives at once. -/
def Decision.result? : Decision → Option Transition
  | .ignored => some .ignored
  | .invalid complaints => some (.invalid complaints)
  | .departed _ => none

variable [Grammars]

namespace Session

/-- The first section of a call, with the answer if the call has one by then. -/
def attempt (d : Document) (c : Call) (s : Session) : Session × Option Transition :=
  match c with
  | .next submitted =>
    let (s, decision) := s.depart d submitted
    (s, decision.result?)
  | .set id v => (((s.record d id v).map Prod.fst).getD s, none)
  | .previous =>
    let (s, t) := s.back d
    (s, some t)

/-- The first sections of calls, one after the other. -/
def attemptAll (d : Document) : List Call → Session → Session × List (Option Transition)
  | [], s => (s, [])
  | c :: rest, s =>
    let (s, t) := s.attempt d c
    let (s, ts) := attemptAll d rest s
    (s, t :: ts)

end Session

/-- The answers of a completed page as they are handed on. -/
def Setup.submission (setup : Setup) (c : Completion) (clock : Nat) : Submission where
  documentId := setup.document.id
  sessionId := setup.sessionId
  answers := c.answers.toList.map fun (id, v) => ⟨id, v⟩
  submittedAt := setup.calendar clock

namespace Run

/-- The run of a new session: cached answers, overridden by those given. -/
def start (setup : Setup) (store : Entries Answers) (given : Answers) : Run :=
  let cache : Cache := { store := store }
  let cached := cache.load setup.conduct setup.document.cacheKey
  { session := Session.start setup.document (cached.extend given), cache := cache }

/-- A new session in place of the old one, over the same store. The old one's write that still waits is cancelled;
its submissions go on. -/
def restart (setup : Setup) (given : Answers) (r : Run) : Run :=
  let fresh := start setup r.cache.store given
  { r with session := fresh.session, cache := fresh.cache, calls := [] }

/-- The answers of the session are to be cached. -/
def cacheAnswers (setup : Setup) (r : Run) : Run :=
  { r with
    cache := r.cache.schedule (r.clock + setup.window) setup.document.cacheKey r.session.answers }

def tell (e : Event) (r : Run) : Run := { r with events := r.events ++ [e] }

/-- The calls that an observer makes from inside: each one's first section, which is all that a call gets to do
before the observer has its answer. -/
def reenter (setup : Setup) (r : Run) : Run :=
  match setup.observer.inside r.events with
  | [] => r
  | calls =>
    let (s, answers) := r.session.attemptAll setup.document calls
    { r with session := s }.tell (.reentered ⟨r.session.phase, answers⟩)

/-- The observer is told of a completed page, and its answers, if there are any, set out for the sink. The number
of the submission follows, if there is one. -/
def complete (setup : Setup) (c : Completion) (r : Run) : Run × Option Nat :=
  let r := (r.tell (.completed c)).reenter setup
  match setup.sink with
  | none => (r, none)
  | some sink =>
    if c.answers.isEmpty then (r, none)
    else
      let n := r.deliveries.length
      let delivery : Delivery := { submission := setup.submission c r.clock, due := r.clock + sink.time n }
      ({ r with deliveries := r.deliveries ++ [delivery] }, some n)

/-- The observer is told of the end. If it fails, that is for the log of the program and nothing else. -/
def report (setup : Setup) (answers : Answers) (redirect : Option String) (r : Run) : Run :=
  let r := r.tell (.finished answers redirect r.arrived.length)
  match setup.observer.reply with
  | .ok () => r
  | .error () => r

/-- The submission of that number is still under way. -/
def isUnderWay (r : Run) (n : Nat) : Bool := ((r.deliveries[n]?).map fun d => !d.isDone).getD false

/-- What a call does at a stage, and the stage it comes to. Nothing, if it has to wait there.

The session is held for the first part of a section only: that a page is left, come to or gone back to is told to the
observer once the session has been let go of, though before the call waits for anything. A call on another thread could
come between the two. Here both are one section, and nothing comes between. -/
def advance? (setup : Setup) (stage : Stage) (r : Run) : Option (Run × Stage) :=
  match stage with
  | .record id v =>
    match r.session.record setup.document id v with
    | none => some (r, .done none)
    | some (s, advances) =>
      some ({ r with session := s }.cacheAnswers setup, if advances then .depart ∅ else .done none)
  | .depart submitted =>
    let (s, decision) := r.session.depart setup.document submitted
    let r := { r with session := s }
    match decision with
    | .ignored => some (r, .done (some .ignored))
    | .invalid complaints => some (r, .done (some (.invalid complaints)))
    | .departed ⟨none, destination⟩ => some (r, .arrive destination)
    | .departed ⟨some c, destination⟩ =>
      match r.complete setup c with
      | (r, none) => some (r, .arrive destination)
      | (r, some n) => some (r, .note n destination)
  | .back =>
    let (s, t) := r.session.back setup.document
    let r := { r with session := s }
    match t with
    | .moved page => some (r.tell (.changed page), .done (some t))
    | t => some (r, .done (some t))
  | .note n destination =>
    let pending := r.session.pending.filter r.isUnderWay ++ [n]
    some ({ r with session := { r.session with pending := pending } }, .arrive destination)
  | .arrive destination =>
    let r := { r with session := r.session.arrive destination }
    match destination with
    | .page page => some ((r.cacheAnswers setup).tell (.changed page), .done (some (.moved page)))
    | .elsewhere url => some (r, .settle (some url))
    | .finish => some (r, .settle none)
  | .settle redirect =>
    some ({ r with session := { r.session with pending := [] } },
      .await r.session.pending r.session.answers redirect)
  | .await deliveries answers redirect =>
    if deliveries.any r.isUnderWay then none
    else some (r, .tell answers redirect (r.clock + setup.observer.time))
  | .tell answers redirect due =>
    if r.clock < due then none
    else
      let r := r.report setup answers redirect
      let cache := r.cache.clear setup.document.cacheKey
      some ({ r with cache := cache }, .clear cache.generation redirect)
  | .clear generation redirect =>
    if r.cache.inLine generation then none
    else
      some (r, .done (some (match redirect with
        | some url => .redirected url
        | none => .completed)))
  | .done _ => none

/-! ### Moves -/

inductive Move where
  /-- A call is made. -/
  | call (c : Call)
  /-- The call of that number goes through its next section. -/
  | advance (n : Nat)
  /-- The sink is done with the submission of that number. -/
  | deliver (n : Nat)
  | cache (m : Cache.Move)
  /-- Time goes by. -/
  | tick

def move? (setup : Setup) (m : Move) (r : Run) : Option Run :=
  match m with
  | .call c => some { r with calls := r.calls ++ [c.stage] }
  | .advance n => do
    let (r', stage) ← r.advance? setup (← r.calls[n]?)
    return { r' with calls := r'.calls.set n stage }
  | .deliver n =>
    match setup.sink, r.deliveries[n]? with
    | some sink, some d =>
      if !d.isDone && d.due ≤ r.clock then
        some { r with
          deliveries := r.deliveries.set n { d with accepted := some (sink.accepts n) }
          arrived := r.arrived ++ [n] }
      else none
    | _, _ => none
  | .cache m => (r.cache.move? setup.conduct r.clock m).map fun c => { r with cache := c }
  | .tick => some { r with clock := r.clock + 1 }

end Run

end Questionnaire
