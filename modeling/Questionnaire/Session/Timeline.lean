import Questionnaire.Cache.Timeline
import Questionnaire.Session.Run

/-!
# A run by the clock

A run in which everything happens as soon as it may, and calls are made one after the other or two at a time: the
store, the sink and the observer take their time on the clock, and a call that waits for one of them lets it pass.
-/

namespace Questionnaire.Run

/-- How many submissions are under way. -/
def underWay (r : Run) : Nat := r.deliveries.countP fun d => !d.isDone

/-- How much there is to do until nothing happens by itself any more. -/
def work (r : Run) : Nat := r.cache.work + r.underWay

/-- The first of those that are due first. -/
def earliest : List (Nat × Nat) → Option (Nat × Nat)
  | [] => none
  | (due, n) :: rest =>
    match earliest rest with
    | some (due', n') => if due' < due then some (due', n') else some (due, n)
    | none => some (due, n)

/-- The submission that the sink is done with next, and when. -/
def nextDelivery? (r : Run) : Option (Nat × Nat) :=
  earliest (r.deliveries.zipIdx.filterMap fun (d, n) => if d.isDone then none else some (d.due, n))

/-- The next move that nobody has to call for, with the time from which it may happen. -/
def next? (r : Run) : Option (Nat × Move) :=
  match r.cache.next?, r.nextDelivery? with
  | none, none => none
  | some (due, m), none => some (due, .cache m)
  | none, some (due, n) => some (due, .deliver n)
  | some (due, m), some (due', n) => if due ≤ due' then some (due, .cache m) else some (due', .deliver n)

theorem countP_set_lt {α : Type} {p : α → Bool} {xs : List α} {n : Nat} {a b : α} (h : xs[n]? = some a)
    (ha : p a = true) (hb : p b = false) : (xs.set n b).countP p < xs.countP p := by
  induction xs generalizing n with
  | nil => simp at h
  | cons x rest ih =>
    cases n with
    | zero =>
      simp only [List.getElem?_cons_zero, Option.some.injEq] at h
      subst h
      simp [ha, hb]
    | succ n =>
      simp only [List.getElem?_cons_succ] at h
      simp only [List.set_cons_succ, List.countP_cons]
      exact Nat.add_lt_add_right (ih h) _

variable [Grammars]

/-- The next move that nobody has to call for, now. -/
def proceed? (setup : Setup) (r : Run) : Option Run := do
  match ← r.next? with
  | (_, .cache m) => r.move? setup (.cache m)
  | (_, .deliver n) => r.move? setup (.deliver n)
  | _ => none

theorem work_move?_cache {setup : Setup} {r r' : Run} {m : Cache.Move} (h : r.move? setup (.cache m) = some r') :
    r'.work < r.work := by
  simp only [move?, Option.map_eq_some_iff] at h
  obtain ⟨c, hc, rfl⟩ := h
  exact Nat.add_lt_add_right (Cache.work_move? hc) _

theorem work_move?_deliver {setup : Setup} {r r' : Run} {n : Nat} (h : r.move? setup (.deliver n) = some r') :
    r'.work < r.work := by
  simp only [move?] at h
  split at h
  · rename_i sink d _ hd
    split at h
    · rename_i hc
      simp only [Bool.and_eq_true] at hc
      simp only [Option.some.injEq] at h
      subst h
      exact Nat.add_lt_add_left (countP_set_lt hd hc.1 (by simp [Delivery.isDone])) _
    · simp at h
  · simp at h

theorem work_proceed? {setup : Setup} {r r' : Run} (h : r.proceed? setup = some r') : r'.work < r.work := by
  simp only [proceed?, Option.bind_eq_bind, Option.bind_eq_some_iff] at h
  obtain ⟨⟨due, m⟩, -, h⟩ := h
  cases m with
  | cache m => exact work_move?_cache h
  | deliver n => exact work_move?_deliver h
  | call _ | advance _ | tick => simp at h

def clockwork (setup : Setup) : Clockwork Run where
  clock := clock
  setClock t r := { r with clock := t }
  due? r := r.next?.map Prod.fst
  move? := proceed? setup
  work := work
  work_setClock _ _ := rfl
  work_lt := work_proceed?

/-! ### Calls -/

/-- A call goes through its sections as long as it does not have to wait; it has no more than `fuel` left. -/
def runOn (setup : Setup) (n : Nat) : Nat → Run → Run
  | 0, r => r
  | fuel + 1, r =>
    match r.move? setup (.advance n) with
    | some r' => runOn setup n fuel r'
    | none => r

/-- The sections that the call of that number may still go through. -/
def remaining (n : Nat) (r : Run) : Nat := ((r.calls[n]?).map Stage.rank).getD 0

/-- The time at which the call of that number goes on, if it waits for one. -/
def alarm? (n : Nat) (r : Run) : Option Nat :=
  match r.calls[n]? with
  | some (.tell _ _ due) => some due
  | _ => none

def canAdvance (setup : Setup) (n : Nat) (r : Run) : Bool := (r.move? setup (.advance n)).isSome

/-- A call that waits goes on, again and again, to its end; it has no more than `fuel` sections left. -/
def finishCall (setup : Setup) (n : Nat) : Nat → Run → Run
  | 0, r => r
  | fuel + 1, r =>
    if r.remaining n = 0 then r
    else
      let r := (clockwork setup).await (r.alarm? n) (canAdvance setup n) r
      finishCall setup n fuel (r.runOn setup n (r.remaining n))

/-- Calls that are made together: each runs until it has to wait, in turn, and then to its end. Their numbers follow
from that of the first. -/
def perform (setup : Setup) (calls : List Call) (r : Run) : Run :=
  let first := r.calls.length
  let numbers := (List.range calls.length).map (first + ·)
  let r := { r with calls := r.calls ++ calls.map Call.stage }
  let r := numbers.foldl (fun r n => r.runOn setup n (r.remaining n)) r
  let r := numbers.foldl (fun r n => r.finishCall setup n (r.remaining n)) r
  (clockwork setup).settle r

/-- What the latest calls were answered. -/
def results (first : Nat) (r : Run) : List (Option Transition) :=
  (r.calls.drop first).map fun s =>
    match s with
    | .done t => t
    | _ => none

/-- So much time later, with everything that is due by then. -/
def wait (setup : Setup) (time : Nat) (r : Run) : Run :=
  (clockwork setup).settle ((clockwork setup).wait time r)

end Questionnaire.Run
