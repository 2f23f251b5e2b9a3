import Questionnaire.Cache.Timeline

/-!
# The log of a cache

A cache goes on by what its user does, by its own moves and as time goes by, in any order: windows may close late, and
the store may take as long as it likes. `TimedCache.Reaches` says which caches can come of one, and with which logs
of events. `Cache.Change` says once what an event does to a cache, and `TimedCache.act?_change` that nothing else
happens to it, so that a property of all runs is an induction by `TimedCache.Reaches.by_changes` with its cases.
-/

namespace Questionnaire

namespace Cache

/-- What happens to a cache. What its user does names the write that is cancelled because it still waits, if any. -/
inductive Event where
  | scheduled (w : Write) (cancelled : Option Write)
  | cleared (generation : Nat) (key : String) (cancelled : Option Write)
  | dropped (cancelled : Option Write)
  /-- The window of the write has closed, and it has joined the line. -/
  | elapsed (w : Write)
  /-- The store would turn to the first in line, but it is a write that is not the latest: it is cancelled. -/
  | skipped (t : Turn)
  /-- The store turns to the first in line. -/
  | began (t : Turn)
  /-- The store has carried it out. -/
  | ended (t : Turn)
  /-- Time goes by. -/
  | ticked

namespace Event

/-- What the user asks for. -/
def issued? : Event → Option Turn
  | scheduled w _ => some (.write w)
  | cleared g key _ => some (.clear g key)
  | _ => none

/-- The write that is never carried out. -/
def cancelled? : Event → Option Write
  | scheduled _ w | cleared _ _ w | dropped w => w
  | skipped (.write w) => some w
  | _ => none

def ended? : Event → Option Turn
  | ended t => some t
  | _ => none

/-- The turn that has come a step further. -/
def turn? : Event → Option Turn
  | elapsed w => some (.write w)
  | skipped t | began t | ended t => some t
  | _ => none

/-- It is something that the user does. -/
def isUse : Event → Bool
  | scheduled _ _ | cleared _ _ _ | dropped _ => true
  | _ => false

def isTick : Event → Bool
  | ticked => true
  | _ => false

theorem issued?_of_isUse {e : Event} (h : e.isUse = false) : e.issued? = none := by
  cases e <;> first | rfl | cases h

end Event

/-- The write whose window is open. -/
def waiting? (c : Cache) : Option Write := c.waiting.map Prod.fst

/-- The event that a move is, if it may happen. -/
def event? (m : Move) (c : Cache) : Option Event :=
  match m with
  | .queue => c.waiting?.map .elapsed
  | .serve => c.line.head?.map fun t => if c.isStale t then .skipped t else .began t
  | .finish => c.line.head?.map .ended

/-- What an event does to a cache at a time of the clock. -/
inductive Change (window : Nat) (conduct : Conduct) (clock : Nat) : Cache → Event → Cache → Prop
  | scheduled {c w} : w.generation = c.generation + 1 →
      Change window conduct clock c (.scheduled w c.waiting?)
        { c with generation := w.generation, waiting := some (w, clock + window) }
  | cleared {c g key} : g = c.generation + 1 →
      Change window conduct clock c (.cleared g key c.waiting?)
        { c with generation := g, waiting := none, line := c.line ++ [.clear g key] }
  | dropped {c} : Change window conduct clock c (.dropped c.waiting?) { c with waiting := none }
  | elapsed {c w due} : c.waiting = some (w, due) → due ≤ clock →
      Change window conduct clock c (.elapsed w) { c with waiting := none, line := c.line ++ [.write w] }
  | skipped {c t rest} : c.serving = none → c.line = t :: rest → c.isStale t = true →
      Change window conduct clock c (.skipped t) { c with line := rest }
  | began {c t rest} : c.serving = none → c.line = t :: rest → c.isStale t = false →
      Change window conduct clock c (.began t) { c with serving := some (clock + conduct.time t) }
  | ended {c t rest due} : c.serving = some due → c.line = t :: rest → due ≤ clock →
      Change window conduct clock c (.ended t)
        { c with
          store := if conduct.works t then t.apply c.store else c.store
          line := rest
          serving := none }
  | ticked {c} : Change window conduct clock c .ticked c

theorem waiting?_eq_some {c : Cache} {w : Write} : c.waiting? = some w ↔ ∃ due, c.waiting = some (w, due) := by
  rw [waiting?, Option.map_eq_some_iff]
  constructor
  · rintro ⟨⟨w, due⟩, h, rfl⟩
    exact ⟨due, h⟩
  · rintro ⟨due, h⟩
    exact ⟨(w, due), h, rfl⟩

/-- A move is an event. -/
theorem move?_change (window : Nat) {conduct : Conduct} {clock : Nat} {m : Move} {c c' : Cache}
    (h : c.move? conduct clock m = some c') : ∃ e, c.event? m = some e ∧ Change window conduct clock c e c' := by
  cases m with
  | queue =>
    simp only [move?] at h
    split at h
    · rename_i w due hw
      obtain ⟨hdue, hc⟩ := Option.ite_none_right_eq_some.mp h
      obtain rfl := Option.some.inj hc
      exact ⟨.elapsed w, by rw [event?, waiting?_eq_some.mpr ⟨due, hw⟩]; rfl, Change.elapsed hw hdue⟩
    · cases h
  | serve =>
    simp only [move?] at h
    split at h
    · rename_i t rest hl hs
      split at h
      · rename_i hstale
        obtain rfl := Option.some.inj h
        exact ⟨.skipped t, by simp only [event?, hl, List.head?_cons, Option.map_some, hstale, if_true],
          Change.skipped hs hl hstale⟩
      · rename_i hstale
        obtain rfl := Option.some.inj h
        refine ⟨.began t, ?_, Change.began hs hl (eq_false_of_ne_true hstale)⟩
        simp only [event?, hl, List.head?_cons, Option.map_some, hstale, Bool.false_eq_true, if_false]
    · cases h
  | finish =>
    simp only [move?] at h
    split at h
    · rename_i t rest due hl hs
      obtain ⟨hdue, hc⟩ := Option.ite_none_right_eq_some.mp h
      obtain rfl := Option.some.inj hc
      exact ⟨.ended t, by rw [event?, hl]; rfl, Change.ended hs hl hdue⟩
    · cases h

theorem event?_isUse {m : Move} {c : Cache} {e : Event} (h : c.event? m = some e) :
    e.isUse = false ∧ e.isTick = false := by
  cases m with
  | queue | finish =>
    obtain ⟨t, -, rfl⟩ := Option.map_eq_some_iff.mp h
    exact ⟨rfl, rfl⟩
  | serve =>
    obtain ⟨t, -, rfl⟩ := Option.map_eq_some_iff.mp h
    split <;> exact ⟨rfl, rfl⟩

/-- How much time has gone by. -/
def ticks (log : List Event) : Nat := log.countP Event.isTick

end Cache

namespace TimedCache
open Cache

/-- Whatever may happen to a cache with the time. -/
inductive Act where
  | schedule (key : String) (answers : Answers)
  | clear (key : String)
  | drop
  | move (m : Cache.Move)
  /-- Time goes by. -/
  | tick

/-- A cache on which nothing has happened yet. -/
def new (store : Entries Answers) (clock : Nat) : TimedCache := { cache := { store := store }, clock := clock }

/-- What comes of an act, with the event that it is, if it may happen. -/
def act? (window : Nat) (conduct : Conduct) (a : Act) (t : TimedCache) : Option (Event × TimedCache) :=
  let c := t.cache
  match a with
  | .schedule key answers =>
    some (.scheduled ⟨c.generation + 1, key, answers⟩ c.waiting?, t.schedule window key answers)
  | .clear key => some (.cleared (c.generation + 1) key c.waiting?, { t with cache := c.clear key })
  | .drop => some (.dropped c.waiting?, t.drop)
  | .move m => do return (← c.event? m, { t with cache := ← c.move? conduct t.clock m })
  | .tick => some (.ticked, { t with clock := t.clock + 1 })

/-- The caches that can come of one by acts in any order, with the log of the events on the way. -/
inductive Reaches (window : Nat) (conduct : Conduct) (t₀ : TimedCache) : List Event → TimedCache → Prop
  | refl : Reaches window conduct t₀ [] t₀
  | step {log t e t'} (a : Act) : Reaches window conduct t₀ log t → t.act? window conduct a = some (e, t') →
      Reaches window conduct t₀ (log ++ [e]) t'

/-- The cache that comes of acts one after the other, with their log, if each one may happen. -/
def follow? (window : Nat) (conduct : Conduct) : List Act → TimedCache → Option (List Event × TimedCache)
  | [], t => some ([], t)
  | a :: as, t => do
    let (e, t') ← t.act? window conduct a
    let (log, t'') ← follow? window conduct as t'
    return (e :: log, t'')

/-- A store at which every turn takes a tick. -/
def slow : Conduct := { time := fun _ => 1 }

variable {window : Nat} {conduct : Conduct} {t₀ t₁ t₂ t : TimedCache}

/-- What an act does to the cache, and to the clock. -/
theorem act?_change {a : Act} {e : Event} {t' : TimedCache} (h : t.act? window conduct a = some (e, t')) :
    Change window conduct t.clock t.cache e t'.cache ∧ t'.clock = t.clock + ticks [e] := by
  cases a with
  | schedule key answers =>
    cases h
    exact ⟨Change.scheduled rfl, rfl⟩
  | clear key =>
    cases h
    exact ⟨Change.cleared rfl, rfl⟩
  | drop =>
    cases h
    exact ⟨Change.dropped, rfl⟩
  | move m =>
    simp only [act?, Option.bind_eq_bind, Option.bind_eq_some_iff, Option.pure_def, Option.some.injEq] at h
    obtain ⟨e', he', c, hc, h⟩ := h
    cases h
    obtain ⟨e'', he'', hchange⟩ := move?_change window hc
    cases he'.symm.trans he''
    refine ⟨hchange, ?_⟩
    rw [ticks, List.countP_cons, (event?_isUse he').2]
    rfl
  | tick =>
    cases h
    exact ⟨Change.ticked, rfl⟩

namespace Reaches

theorem trans {log log' : List Event} (h : Reaches window conduct t₀ log t₁)
    (h' : Reaches window conduct t₁ log' t₂) : Reaches window conduct t₀ (log ++ log') t₂ := by
  induction h' with
  | refl => rwa [List.append_nil]
  | step a _ ha ih => rw [← List.append_assoc]; exact ih.step a ha

theorem of_follow? {log : List Event} (as : List Act) (h : t₀.follow? window conduct as = some (log, t)) :
    Reaches window conduct t₀ log t := by
  induction as generalizing t₀ log with
  | nil =>
    obtain ⟨rfl, rfl⟩ := Prod.mk.inj (Option.some.inj h)
    exact refl
  | cons a as ih =>
    simp only [follow?, Option.bind_eq_bind, Option.bind_eq_some_iff, Option.pure_def, Option.some.injEq,
      Prod.mk.injEq] at h
    obtain ⟨⟨e, t₁⟩, ha, ⟨log', t'⟩, h', rfl, rfl⟩ := h
    exact (refl.step a ha).trans (ih h')

/-- The clock goes by ticks. -/
theorem clock_eq {log : List Event} (h : Reaches window conduct t₀ log t) : t.clock = t₀.clock + ticks log := by
  induction h with
  | refl => rfl
  | step a _ ha ih => rw [(act?_change ha).2, ih, ticks, ticks, ticks, List.countP_append, Nat.add_assoc]

/-- Induction on a run by its events. -/
theorem by_changes {motive : List Event → Cache → Prop} (start : motive [] t₀.cache)
    (change : ∀ {log t e c}, Reaches window conduct t₀ log t → Change window conduct t.clock t.cache e c →
      motive log t.cache → motive (log ++ [e]) c) {log : List Event} (h : Reaches window conduct t₀ log t) :
    motive log t.cache := by
  induction h with
  | refl => exact start
  | step a ht ha ih => exact change ht (act?_change ha).1 ih

/-- A run can be taken apart at any point of its log. -/
theorem split {before after : List Event} (h : Reaches window conduct t₀ (before ++ after) t) :
    ∃ t₁, Reaches window conduct t₀ before t₁ ∧ Reaches window conduct t₁ after t := by
  -- The run grows at its end, by one event, which is the last one after the point or the last one before it.
  generalize hlog : before ++ after = log at h
  induction h generalizing after with
  | refl =>
    obtain ⟨rfl, rfl⟩ := List.append_eq_nil_iff.mp hlog
    exact ⟨t₀, refl, refl⟩
  | @step log t e t' a ht ha ih =>
    rcases List.eq_nil_or_concat after with rfl | ⟨after, e', rfl⟩
    · rw [List.append_nil] at hlog
      exact ⟨t', hlog ▸ ht.step a ha, refl⟩
    · rw [List.concat_eq_append, ← List.append_assoc] at hlog
      obtain ⟨hlog', hlast⟩ := List.append_inj' hlog rfl
      obtain rfl := (List.cons.inj hlast).1
      obtain ⟨t₁, h₁, h₂⟩ := ih hlog'
      exact ⟨t₁, h₁, List.concat_eq_append ▸ h₂.step a ha⟩

theorem eq_of_nil (h : Reaches window conduct t₀ [] t) : t = t₀ := by
  generalize hlog : [] = log at h
  cases h with
  | refl => rfl
  | step => exact absurd hlog.symm (List.concat_ne_nil _ _)

theorem act_of_singleton {e : Event} (h : Reaches window conduct t₀ [e] t) :
    ∃ a, t₀.act? window conduct a = some (e, t) := by
  generalize hlog : [e] = log at h
  cases h with
  | refl => cases hlog
  | step a ht ha =>
    obtain ⟨rfl, he⟩ := List.append_inj' ((List.nil_append [e]).trans hlog) rfl
    obtain rfl := (List.cons.inj he).1
    obtain rfl := ht.eq_of_nil
    exact ⟨a, ha⟩

/-- A run can be taken apart before and after each event of its log. -/
theorem split_at {before after : List Event} {e : Event} (h : Reaches window conduct t₀ (before ++ e :: after) t) :
    ∃ t₁ t₂, Reaches window conduct t₀ before t₁ ∧ Change window conduct t₁.clock t₁.cache e t₂.cache ∧
      Reaches window conduct t₂ after t := by
  obtain ⟨t₁, h₁, h'⟩ := h.split
  obtain ⟨t₂, h₂, hrest⟩ := (h'.split : ∃ t₂, Reaches window conduct t₁ [e] t₂ ∧ Reaches window conduct t₂ after t)
  obtain ⟨a, ha⟩ := h₂.act_of_singleton
  exact ⟨t₁, t₂, h₁, (act?_change ha).1, hrest⟩

end Reaches

end TimedCache

end Questionnaire
