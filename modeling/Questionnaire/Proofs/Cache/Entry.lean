import Mathlib.Data.List.Destutter
import Mathlib.Data.List.ReduceOption
import Questionnaire.Proofs.Cache.Order

/-!
# The entry of a key

A cache that is used for one key only has one entry in its store. Each turn that the store carries out brings the next
entry, so that what is seen of it at any moments is a list of entries with repetitions, which `List.destutter` takes
away.
-/

namespace Questionnaire

namespace Turn

def key : Turn → String
  | write w => w.key
  | clear _ key => key

/-- What the entry of its key is after the turn. -/
def brings : Turn → Option Answers
  | write w => some w.answers
  | clear _ _ => none

end Turn

namespace Cache

/-- The entry that was found at first, and those that came of what the store has carried out. -/
def entries (found : Option Answers) (log : List Event) : List (Option Answers) :=
  found :: (carriedOut log).map Turn.brings

/-- At most one entry comes of an event. -/
theorem entries_append (found : Option Answers) (log : List Event) (e : Option Event) :
    entries found (log ++ e.toList) = entries found log ++ ((e.bind Event.ended?).map Turn.brings).toList := by
  cases e with
  | none => simp only [Option.toList_none, List.append_nil, Option.bind_none, Option.map_none]
  | some e =>
    rw [entries, entries, Option.toList_some, carriedOut_concat, List.map_append, List.cons_append, Option.bind_some]
    cases e.ended? <;> rfl

theorem getLast?_entries {key : String} {turns : List Turn} (store : Entries Answers)
    (h : ∀ t ∈ turns, t.key = key) :
    (store.get? key :: turns.map Turn.brings).getLast? = some ((applyAll turns store).get? key) := by
  induction turns using List.reverseRecOn with
  | nil => rfl
  | append_singleton turns t ih =>
    have hkey : t.key = key := h t (List.mem_append_right _ (List.mem_singleton_self t))
    rw [List.map_append, ← List.cons_append, List.getLast?_append, applyAll_append]
    cases t with
    | write w => exact congrArg some ((Entries.get?_insert _ _ _ _).trans (if_pos hkey)).symm
    | clear g k => exact congrArg some ((Entries.get?_erase _ _ _).trans (if_pos hkey)).symm

theorem reduceOption_brings (turns : List Turn) :
    (turns.map Turn.brings).reduceOption = (writes turns).map Write.answers := by
  induction turns with
  | nil => rfl
  | cons t turns ih =>
    cases t with
    | write w => exact (List.reduceOption_cons_of_some _ _).trans (congrArg (w.answers :: ·) ih)
    | clear g key => exact (List.reduceOption_cons_of_none _).trans ih

/-! ### Lists without repetitions -/

/-- What comes next to the last of a list counts as new if it is another. -/
theorem destutter_concat {α : Type} [DecidableEq α] {as : List α} {a : α} (h : as.getLast? = some a) (b : α) :
    (as ++ [b]).destutter (· ≠ ·) = as.destutter (· ≠ ·) ++ if a = b then [] else [b] := by
  cases as with
  | nil => cases h
  | cons first rest =>
    rw [List.cons_append, List.destutter_cons', List.destutter_cons']
    induction rest generalizing first with
    | nil =>
      obtain rfl : first = a := Option.some.inj h
      by_cases hab : first = b
      · rw [List.nil_append, List.destutter'_singleton, if_neg (not_not.mpr hab), if_pos hab]
        rfl
      · rw [List.nil_append, List.destutter'_singleton, if_pos hab, if_neg hab]
        rfl
    | cons second rest ih =>
      rw [List.getLast?_cons_cons] at h
      have := ih second h
      by_cases hab : first = second
      · subst hab
        rw [List.cons_append, List.destutter'_cons_neg _ (not_not.mpr rfl),
          List.destutter'_cons_neg _ (not_not.mpr rfl), this]
      · rw [List.cons_append, List.destutter'_cons_pos _ hab, List.destutter'_cons_pos _ hab, this]
        rfl

theorem destutter_cons {α : Type} [DecidableEq α] (a : α) (as : List α) :
    ∃ rest, (a :: as).destutter (· ≠ ·) = a :: rest ∧ rest.Sublist as := by
  rw [List.destutter_cons']
  induction as with
  | nil => exact ⟨[], rfl, List.Sublist.slnil⟩
  | cons b as ih =>
    by_cases hab : a = b
    · subst hab
      rw [List.destutter'_cons_neg _ (not_not.mpr rfl)]
      obtain ⟨rest, hrest, hsub⟩ := ih
      exact ⟨rest, hrest, hsub.cons a⟩
    · rw [List.destutter'_cons_pos _ hab]
      exact ⟨_, rfl, List.destutter'_sublist _ _ _⟩

end Cache

end Questionnaire
