import Questionnaire.Json.Coercion

/-!
# The cache of answers

Writes to a store, held back until no newer one comes. A write waits for its window; a newer write or a removal
cancels it while it waits, and overtakes it while it stands in line. The store serves one turn at a time, in the
order of the line, and a turn that the store has begun is never cut short. How long the store takes and whether it
works is up to its `Conduct`.

The cache moves in steps: `schedule`, `clear` and `drop` are made by its user, the `Move`s happen by themselves.
-/

namespace Questionnaire

/-- A write of answers under a key. The generation tells it from every other write and removal. -/
structure Write where
  generation : Nat
  key : String
  answers : Answers

/-- What the store is asked to do. -/
inductive Turn where
  | write (w : Write)
  | clear (generation : Nat) (key : String)

namespace Turn

def generation : Turn → Nat
  | write w => w.generation
  | clear g _ => g

/-- The store after the turn. -/
def apply (store : Entries Answers) : Turn → Entries Answers
  | write w => store.insert w.key w.answers
  | clear _ key => store.erase key

end Turn

/-- How a store behaves: how long a turn takes, whether it succeeds, and whether the store can be read. -/
structure Conduct where
  time : Turn → Nat := fun _ => 0
  works : Turn → Bool := fun _ => true
  reads : Bool := true

structure Cache where
  /-- What the store holds. -/
  store : Entries Answers := ∅
  /-- The generation of the latest write or removal. -/
  generation : Nat := 0
  /-- The write whose window is still open, and when it closes. -/
  waiting : Option (Write × Nat) := none
  /-- The turns at the store, first in line first. -/
  line : List Turn := []
  /-- When the first in line will have been served, if the store has turned to it. -/
  serving : Option Nat := none

namespace Cache

/-! ### What its user does -/

/-- What the store holds under a key; a store that cannot be read counts as empty. -/
def load (conduct : Conduct) (key : String) (c : Cache) : Answers :=
  if conduct.reads then (c.store.get? key).getD ∅ else ∅

/-- A write that waits until a time. A write that is still waiting is cancelled. -/
def schedule (until_ : Nat) (key : String) (answers : Answers) (c : Cache) : Cache :=
  let g := c.generation + 1
  { c with generation := g, waiting := some (⟨g, key, answers⟩, until_) }

/-- The removal of a key, which stands in line with the writes that wait no longer. A write that is still waiting
is cancelled. The generation afterwards is that of the removal. -/
def clear (key : String) (c : Cache) : Cache :=
  let g := c.generation + 1
  { c with generation := g, waiting := none, line := c.line ++ [.clear g key] }

/-- The end of the cache: a write that is still waiting is cancelled. -/
def drop (c : Cache) : Cache := { c with waiting := none }

/-- The turn of that generation is still in line. -/
def inLine (generation : Nat) (c : Cache) : Bool := c.line.any fun t => t.generation == generation

/-! ### What happens by itself -/

inductive Move where
  /-- The window of the waiting write has closed: the write joins the line. -/
  | queue
  /-- The store turns to the first in line. -/
  | serve
  /-- The store is done with the first in line. -/
  | finish
deriving DecidableEq, Repr

/-- A turn that is not to be carried out: a write that is not the latest. -/
def isStale (c : Cache) : Turn → Bool
  | .write w => w.generation != c.generation
  | .clear _ _ => false

/-- The next move, with the time from which it may happen. -/
def next? (c : Cache) : Option (Nat × Move) :=
  let turn :=
    match c.line, c.serving with
    | [], _ => none
    | _ :: _, none => some (0, Move.serve)
    | _ :: _, some due => some (due, .finish)
  match c.waiting, turn with
  | none, turn => turn
  | some (_, due), none => some (due, .queue)
  | some (_, due), some (due', m) => if due < due' then some (due, .queue) else some (due', m)

/-- A move at a time of the clock, if it may happen then. -/
def move? (conduct : Conduct) (clock : Nat) (m : Move) (c : Cache) : Option Cache :=
  match m with
  | .queue =>
    match c.waiting with
    | some (w, due) => if due ≤ clock then some { c with waiting := none, line := c.line ++ [.write w] } else none
    | none => none
  | .serve =>
    match c.line, c.serving with
    | t :: rest, none =>
      if c.isStale t then some { c with line := rest } else some { c with serving := some (clock + conduct.time t) }
    | _, _ => none
  | .finish =>
    match c.line, c.serving with
    | t :: rest, some due =>
      if due ≤ clock then
        some { c with
          store := if conduct.works t then t.apply c.store else c.store
          line := rest
          serving := none }
      else none
    | _, _ => none

/-- How much there is to do until nothing happens by itself any more. -/
def work (c : Cache) : Nat :=
  (if c.waiting.isSome then 3 else 0) + 2 * c.line.length - (if c.serving.isSome then 1 else 0)

end Cache

end Questionnaire
