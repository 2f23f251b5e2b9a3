import Questionnaire.Cache
import Questionnaire.Timeline

/-!
# A cache by the clock

A cache whose moves happen as soon as they may. `Cache.work` shows that they come to an end.
-/

namespace Questionnaire

/-- A cache with the time. -/
structure TimedCache where
  cache : Cache := {}
  clock : Nat := 0

namespace Cache

theorem work_move? {conduct : Conduct} {clock : Nat} {m : Move} {c c' : Cache}
    (h : c.move? conduct clock m = some c') : c'.work < c.work := by
  obtain ⟨store, generation, waiting, line, serving⟩ := c
  cases m with
  | queue =>
    match waiting with
    | none => simp [move?] at h
    | some (w, due) =>
      simp only [move?, Option.ite_none_right_eq_some, Option.some.injEq] at h
      obtain ⟨-, rfl⟩ := h
      cases serving <;>
        simp only [work, List.length_append, List.length_singleton, Option.isSome_none, Option.isSome_some,
          Bool.false_eq_true, if_false, if_true] <;>
        omega
  | serve =>
    match line, serving with
    | [], _ => simp [move?] at h
    | _ :: _, some _ => simp [move?] at h
    | t :: rest, none =>
      simp only [move?] at h
      split at h <;>
        (simp only [Option.some.injEq] at h
         subst h
         simp only [work, List.length_cons, Option.isSome_none, Option.isSome_some, Bool.false_eq_true, if_false, if_true]
         omega)
  | finish =>
    match line, serving with
    | [], _ => simp [move?] at h
    | _ :: _, none => simp [move?] at h
    | t :: rest, some due =>
      simp only [move?, Option.ite_none_right_eq_some, Option.some.injEq] at h
      obtain ⟨-, rfl⟩ := h
      simp only [work, List.length_cons, Option.isSome_none, Option.isSome_some, Bool.false_eq_true, if_false, if_true]
      omega

end Cache

namespace TimedCache

/-- The next move of the cache, now. -/
def move? (conduct : Conduct) (t : TimedCache) : Option TimedCache := do
  let (_, m) ← t.cache.next?
  return { t with cache := ← t.cache.move? conduct t.clock m }

theorem work_move? {conduct : Conduct} {t t' : TimedCache} (h : t.move? conduct = some t') :
    t'.cache.work < t.cache.work := by
  simp only [move?, Option.bind_eq_bind, Option.bind_eq_some_iff, Option.pure_def, Option.some.injEq] at h
  obtain ⟨m, -, c, hc, rfl⟩ := h
  exact Cache.work_move? hc

def clockwork (conduct : Conduct) : Clockwork TimedCache where
  clock := clock
  setClock n t := { t with clock := n }
  due? t := t.cache.next?.map Prod.fst
  move? := move? conduct
  work t := t.cache.work
  work_setClock _ _ := rfl
  work_lt := work_move?

/-! ### Steps of its user -/

def schedule (window : Nat) (key : String) (answers : Answers) (t : TimedCache) : TimedCache :=
  { t with cache := t.cache.schedule (t.clock + window) key answers }

/-- A removal, until it has been carried out. -/
def clear (conduct : Conduct) (key : String) (t : TimedCache) : TimedCache :=
  let t := { t with cache := t.cache.clear key }
  let g := t.cache.generation
  (clockwork conduct).await none (fun t => !t.cache.inLine g) t

def drop (t : TimedCache) : TimedCache := { t with cache := t.cache.drop }

end TimedCache

end Questionnaire
