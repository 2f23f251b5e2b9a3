/-!
# Time that passes only when nothing else can happen

Something with a clock that also moves by itself: each move is due at some time. The clock stands still while a move
is due, and jumps to the next time at which something is. `elapse`, `wait` and `await` let time pass up to a limit,
for a while, and until somebody who waits can go on. They end because every move leaves less to do.
-/

namespace Questionnaire

structure Clockwork (σ : Type) where
  clock : σ → Nat
  setClock : Nat → σ → σ
  /-- When the next move is due. -/
  due? : σ → Option Nat
  /-- The next move, made now. -/
  move? : σ → Option σ
  /-- How much there is to do. -/
  work : σ → Nat
  work_setClock : ∀ t s, work (setClock t s) = work s
  work_lt : ∀ {s s'}, move? s = some s' → work s' < work s

namespace Clockwork

variable {σ : Type} (w : Clockwork σ)

/-- A time is not after the limit, if there is one. -/
def isWithin (limit : Option Nat) (t : Nat) : Bool := (limit.map fun l => decide (t ≤ l)).getD true

/-- The next move, if it is due by the limit, at the time when it is due. -/
def next? (limit : Option Nat) (s : σ) : Option σ :=
  match w.due? s with
  | some due => if isWithin limit due then w.move? (w.setClock (max (w.clock s) due) s) else none
  | none => none

theorem work_next? {limit : Option Nat} {s s' : σ} (h : w.next? limit s = some s') : w.work s' < w.work s := by
  unfold next? at h
  split at h
  · split at h
    · simpa [w.work_setClock] using w.work_lt h
    · simp at h
  · simp at h

/-- All moves that are due by the limit. -/
def elapse (limit : Option Nat) (s : σ) : σ :=
  match _h : w.next? limit s with
  | some s' => elapse limit s'
  | none => s
termination_by w.work s
decreasing_by exact w.work_next? _h

/-- All moves that are due now. -/
def settle (s : σ) : σ := w.elapse (some (w.clock s)) s

/-- So much later. Moves that are due at the end have yet to happen. -/
def wait (time : Nat) (s : σ) : σ :=
  if time = 0 then s
  else
    let limit := w.clock s + time
    w.setClock limit (w.elapse (some (limit - 1)) s)

/-- When somebody who waits can go on: either they have set an alarm, which rings before anything that is due at its
time, or they look whenever nothing is due any more. -/
def await (alarm : Option Nat) (ready : σ → Bool) (s : σ) : σ :=
  match _h : w.next? (some (w.clock s)) s with
  | some s' => await alarm ready s'
  | none =>
    if ready s then s
    else
      match _h' : w.next? (alarm.map (· - 1)) s with
      | some s' => await alarm ready s'
      | none => (alarm.map fun t => w.setClock (max (w.clock s) t) s).getD s
termination_by w.work s
decreasing_by
  · exact w.work_next? _h
  · exact w.work_next? _h'

end Clockwork

end Questionnaire
