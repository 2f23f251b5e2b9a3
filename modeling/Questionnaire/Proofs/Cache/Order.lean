import Mathlib.Data.List.Induction
import Questionnaire.Proofs.Cache.Log

/-!
# The order of turns

Whatever is asked of a cache has a generation of its own, in order. What the store has carried out, what stands in
line and the write that waits come from what was asked, in the same order; all else that was asked are writes that
were cancelled. What the store holds is what the turns that it has carried out made of what it held at first.
-/

namespace Questionnaire

namespace Turn

def write? : Turn → Option Write
  | write w => some w
  | clear _ _ => none

end Turn

namespace Cache

/-- The writes among turns. -/
def writes (turns : List Turn) : List Write := turns.filterMap Turn.write?

/-- What was asked of the cache, in order. -/
def issued (log : List Event) : List Turn := log.filterMap Event.issued?

/-- What the store has carried out, in order. -/
def carriedOut (log : List Event) : List Turn := log.filterMap Event.ended?

/-- The writes that are never carried out, in the order in which they were cancelled. -/
def cancelled (log : List Event) : List Write := log.filterMap Event.cancelled?

/-- The turns to come: those in line, and then the write that waits. -/
def outstanding (c : Cache) : List Turn := c.line ++ c.waiting?.toList.map Turn.write

/-- Nothing waits and nothing stands in line. -/
def IsIdle (c : Cache) : Prop := c.outstanding = []

/-! ### Logs that grow -/

section
variable {log : List Event}

theorem filterMap_split {α β : Type} (f : α → Option β) (before : List α) (a : α) (after : List α) :
    (before ++ a :: after).filterMap f = before.filterMap f ++ ((f a).toList ++ after.filterMap f) := by
  rw [List.filterMap_append, List.filterMap_cons]
  cases f a <;> rfl

theorem filterMap_concat {α β : Type} (f : α → Option β) (as : List α) (a : α) :
    (as ++ [a]).filterMap f = as.filterMap f ++ (f a).toList := by
  rw [filterMap_split, List.filterMap_nil, List.append_nil]

theorem issued_concat (log : List Event) (e : Event) : issued (log ++ [e]) = issued log ++ e.issued?.toList :=
  filterMap_concat _ _ _

theorem issued_split (before : List Event) (e : Event) (after : List Event) :
    issued (before ++ e :: after) = issued before ++ (e.issued?.toList ++ issued after) := filterMap_split _ _ _ _

theorem mem_issued_split {before after : List Event} {e : Event} {t : Turn} :
    t ∈ issued (before ++ e :: after) ↔ t ∈ issued before ∨ e.issued? = some t ∨ t ∈ issued after := by
  rw [issued_split, List.mem_append, List.mem_append, Option.mem_toList]

theorem carriedOut_concat (log : List Event) (e : Event) :
    carriedOut (log ++ [e]) = carriedOut log ++ e.ended?.toList := filterMap_concat _ _ _

theorem cancelled_concat (log : List Event) (e : Event) :
    cancelled (log ++ [e]) = cancelled log ++ e.cancelled?.toList := filterMap_concat _ _ _

theorem mem_carriedOut {t : Turn} : t ∈ carriedOut log ↔ .ended t ∈ log := by
  rw [carriedOut, List.mem_filterMap]
  constructor
  · rintro ⟨e, he, ht⟩
    cases e with
    | ended t' =>
      obtain rfl := Option.some.inj ht
      exact he
    | scheduled | cleared | dropped | elapsed | skipped | began | ticked => cases ht
  · intro h
    exact ⟨.ended t, h, rfl⟩

end

section
variable {window clock : Nat} {conduct : Conduct} {c c' : Cache} {e : Event}

theorem mem_outstanding_of_waiting? {w : Write} (h : c.waiting? = some w) : .write w ∈ c.outstanding := by
  rw [outstanding, h]
  exact List.mem_append_right _ (List.mem_singleton_self _)

theorem Change.turn_mem {t : Turn} (hc : Change window conduct clock c e c') (he : e.turn? = some t) :
    t ∈ c.outstanding := by
  cases hc with
  | elapsed hw =>
    obtain rfl := Option.some.inj he
    exact mem_outstanding_of_waiting? (waiting?_eq_some.mpr ⟨_, hw⟩)
  | skipped _ hl | began _ hl | ended _ hl =>
    obtain rfl := Option.some.inj he
    rw [outstanding, hl]
    exact List.mem_append_left _ List.mem_cons_self
  | scheduled | cleared | dropped | ticked => cases he

theorem Change.line_of_turn {t : Turn} (hc : Change window conduct clock c e c') (he : e = .began t ∨ e = .ended t) :
    ∃ rest, c.line = t :: rest := by
  cases hc with
  | began _ hl | ended _ hl =>
    obtain he | he := he <;> cases he
    exact ⟨_, hl⟩
  | scheduled | cleared | dropped | elapsed | skipped | ticked => obtain he | he := he <;> cases he

theorem Change.cancelled_mem {w : Write} (hc : Change window conduct clock c e c') (he : e.cancelled? = some w) :
    .write w ∈ c.outstanding := by
  cases hc with
  | scheduled | cleared | dropped => exact mem_outstanding_of_waiting? he
  | @skipped t rest _ hl =>
    cases t with
    | write w' =>
      obtain rfl := Option.some.inj he
      rw [outstanding, hl]
      exact List.mem_append_left _ List.mem_cons_self
    | clear => cases he
  | elapsed | began | ended | ticked => cases he

end

/-! ### The order -/

/-- The turns of a cache are in the order in which they were asked for. Each one has been carried out, is still to
come or is a cancelled write, and is only one of these. -/
structure Orderly (log : List Event) (c : Cache) : Prop where
  increasing : (issued log).Pairwise fun a b => a.generation < b.generation
  latest : ∀ t ∈ issued log, t.generation ≤ c.generation
  newest : issued log ≠ [] → ∃ t ∈ issued log, t.generation = c.generation
  order : (carriedOut log ++ c.outstanding).Sublist (issued log)
  accounted : (carriedOut log ++ c.outstanding ++ (cancelled log).map Turn.write).Perm (issued log)

namespace Orderly
variable {window clock : Nat} {conduct : Conduct} {log : List Event} {c c' : Cache} {e : Event} {t : Turn}

/-- Something new is asked for, and what waits is cancelled. -/
theorem issue (h : Orderly log c) (hi : e.issued? = some t) (he : e.ended? = none)
    (hw : e.cancelled? = c.waiting?) (ht : t.generation = c.generation + 1) (hg : c'.generation = t.generation)
    (ho : c'.outstanding = c.line ++ [t]) : Orderly (log ++ [e]) c' := by
  have issued_eq : issued (log ++ [e]) = issued log ++ [t] := by rw [issued_concat, hi]; rfl
  have carriedOut_eq : carriedOut (log ++ [e]) = carriedOut log := by
    rw [carriedOut_concat, he]; exact List.append_nil _
  refine ⟨?_, fun u hu => ?_, fun _ => ⟨t, ?_, hg.symm⟩, ?_, ?_⟩
  · rw [issued_eq, List.pairwise_append]
    refine ⟨h.increasing, List.pairwise_singleton _ _, fun u hu v hv => ?_⟩
    obtain rfl := List.mem_singleton.mp hv
    have := h.latest u hu
    omega
  · rw [issued_eq, List.mem_append, List.mem_singleton] at hu
    rcases hu with hu | rfl
    · have := h.latest u hu
      omega
    · omega
  · rw [issued_eq]
    exact List.mem_append_right _ (List.mem_singleton_self t)
  · rw [issued_eq, carriedOut_eq, ho, ← List.append_assoc]
    refine List.Sublist.append ?_ (List.Sublist.refl [t])
    exact ((List.sublist_append_left _ _).append_left _).trans h.order
  · rw [issued_eq, carriedOut_eq, ho, cancelled_concat, hw, List.map_append]
    refine List.Perm.trans ?_ (h.accounted.append_right [t])
    -- The write that waited has gone from the end of what is to come to the end of what is cancelled.
    classical
    rw [List.perm_iff_count]
    intro u
    simp only [outstanding, List.count_append]
    omega

/-- Nothing is asked for: of what the store has carried out and what is still to come, at most a cancelled write goes
away. -/
theorem proceed (h : Orderly log c) (first rest : List Turn) (hi : e.issued? = none)
    (hg : c'.generation = c.generation)
    (ho : carriedOut log ++ c.outstanding = first ++ (e.cancelled?.toList.map Turn.write ++ rest))
    (ho' : carriedOut (log ++ [e]) ++ c'.outstanding = first ++ rest) : Orderly (log ++ [e]) c' := by
  have issued_eq : issued (log ++ [e]) = issued log := by rw [issued_concat, hi]; exact List.append_nil _
  refine ⟨issued_eq ▸ h.increasing, ?_, ?_, ?_, ?_⟩
  · rw [issued_eq, hg]
    exact h.latest
  · rw [issued_eq, hg]
    exact h.newest
  · rw [issued_eq, ho']
    refine List.Sublist.trans ?_ (ho ▸ h.order)
    exact (List.sublist_append_right _ _).append_left _
  · rw [issued_eq, ho', cancelled_concat, List.map_append]
    refine List.Perm.trans ?_ (ho ▸ h.accounted)
    classical
    rw [List.perm_iff_count]
    intro u
    simp only [List.count_append]
    omega

/-- A turn goes on from where it stands to the next place. -/
theorem advance (h : Orderly log c) (hi : e.issued? = none) (hw : e.cancelled? = none)
    (hg : c'.generation = c.generation)
    (ho : carriedOut (log ++ [e]) ++ c'.outstanding = carriedOut log ++ c.outstanding) : Orderly (log ++ [e]) c' := by
  refine h.proceed (carriedOut log ++ c.outstanding) [] hi hg ?_ ?_
  · rw [hw]
    exact (List.append_nil _).symm
  · rw [ho, List.append_nil]

theorem change (h : Orderly log c) (hc : Change window conduct clock c e c') : Orderly (log ++ [e]) c' := by
  cases hc with
  | scheduled hg => exact h.issue rfl rfl rfl hg rfl rfl
  | cleared hg => exact h.issue rfl rfl rfl hg rfl (List.append_nil _)
  | dropped =>
    refine h.proceed (carriedOut log ++ c.line) [] rfl rfl ?_ ?_
    · rw [List.append_nil, List.append_assoc]
      rfl
    · rw [carriedOut_concat, List.append_nil]
      simp only [Event.ended?, Option.toList_none, List.append_nil, outstanding, waiting?, Option.map_none,
        List.map_nil]
  | elapsed hw =>
    refine h.advance rfl rfl rfl ?_
    rw [carriedOut_concat, outstanding, outstanding, waiting?_eq_some.mpr ⟨_, hw⟩]
    simp only [Event.ended?, waiting?, Option.map_none, Option.toList_none, Option.toList_some, List.map_nil,
      List.map_cons, List.append_nil]
  | @skipped t rest hs hl hstale =>
    cases t with
    | write w =>
      refine h.proceed (carriedOut log) (rest ++ c.waiting?.toList.map Turn.write) rfl rfl ?_ ?_
      · rw [outstanding, hl]
        rfl
      · rw [carriedOut_concat]
        exact congrArg (· ++ (rest ++ c.waiting?.toList.map Turn.write)) (List.append_nil (carriedOut log))
    | clear g key => cases hstale
  | began =>
    refine h.advance rfl rfl rfl ?_
    rw [carriedOut_concat]
    exact congrArg (· ++ c.outstanding) (List.append_nil (carriedOut log))
  | ended _ hl =>
    refine h.advance rfl rfl rfl ?_
    rw [carriedOut_concat, outstanding, outstanding, hl, List.append_assoc]
    rfl
  | ticked =>
    refine h.advance rfl rfl rfl ?_
    rw [carriedOut_concat]
    exact congrArg (· ++ c.outstanding) (List.append_nil (carriedOut log))

theorem start (store : Entries Answers) : Orderly [] { store := store } where
  increasing := List.Pairwise.nil
  latest := fun t ht => by cases ht
  newest := fun h => absurd rfl h
  order := List.Sublist.slnil
  accounted := List.Perm.nil

/-- What the store has carried out comes before what is still to come. -/
theorem increasing_turns (h : Orderly log c) :
    (carriedOut log ++ c.outstanding).Pairwise fun a b => a.generation < b.generation :=
  h.increasing.sublist h.order

theorem mem_issued_iff (h : Orderly log c) :
    t ∈ issued log ↔ t ∈ carriedOut log ∨ t ∈ c.outstanding ∨ ∃ w ∈ cancelled log, .write w = t := by
  rw [← h.accounted.mem_iff, List.mem_append, List.mem_append, List.mem_map, or_assoc]

theorem nodup_issued (h : Orderly log c) : (issued log).Nodup :=
  h.increasing.imp fun {a b} hlt (heq : a = b) => Nat.lt_irrefl b.generation (heq ▸ hlt)

theorem lt_of_earlier {before after : List Event} {u : Turn} (h : Orderly (before ++ e :: after) c)
    (ht : t ∈ issued before) (hu : e.issued? = some u) : t.generation < u.generation := by
  have increasing := h.increasing
  rw [issued_split, hu] at increasing
  exact (List.pairwise_append.mp increasing).2.2 _ ht _ List.mem_cons_self

theorem lt_of_later {before after : List Event} {u : Turn} (h : Orderly (before ++ e :: after) c)
    (hu : e.issued? = some u) (ht : t ∈ issued after) : u.generation < t.generation := by
  have increasing := h.increasing
  rw [issued_split, hu] at increasing
  exact (List.pairwise_cons.mp (List.pairwise_append.mp increasing).2.1).1 _ ht

theorem le_last (h : Orderly log c) {turns : List Turn} {u : Turn} (hlast : issued log = turns ++ [t])
    (hu : u ∈ issued log) : u.generation ≤ t.generation := by
  have increasing := h.increasing
  rw [hlast] at hu increasing
  rcases List.mem_append.mp hu with hu | hu
  · exact Nat.le_of_lt ((List.pairwise_append.mp increasing).2.2 _ hu _ (List.mem_singleton_self t))
  · obtain rfl := List.mem_singleton.mp hu
    exact Nat.le_refl _

/-- A cancelled write is not to come any more and has not been carried out. -/
theorem not_mem_of_cancelled (h : Orderly log c) {w : Write} (hw : w ∈ cancelled log) :
    .write w ∉ carriedOut log ∧ .write w ∉ c.outstanding := by
  have nodup := h.accounted.nodup_iff.mpr h.nodup_issued
  have apart := (List.nodup_append.mp nodup).2.2
  have hmem : Turn.write w ∈ (cancelled log).map Turn.write := List.mem_map_of_mem hw
  exact ⟨fun hdone => apart _ (List.mem_append_left _ hdone) _ hmem rfl,
    fun hleft => apart _ (List.mem_append_right _ hleft) _ hmem rfl⟩

end Orderly

/-! ### The store -/

/-- What turns make of a store, one after the other. -/
def applyAll (turns : List Turn) (store : Entries Answers) : Entries Answers :=
  turns.foldl (fun store t => t.apply store) store

theorem applyAll_append (turns more : List Turn) (store : Entries Answers) :
    applyAll (turns ++ more) store = applyAll more (applyAll turns store) := List.foldl_append

/-- Removals leave an entry as it is, unless one of them is a removal of it. -/
theorem get?_applyAll_of_clears {turns : List Turn} (store : Entries Answers) (key : String)
    (h : ∀ t ∈ turns, ∀ w, t ≠ .write w) :
    (applyAll turns store).get? key = store.get? key ∨
      (applyAll turns store).get? key = none ∧ ∃ g, .clear g key ∈ turns := by
  induction turns using List.reverseRecOn with
  | nil => exact Or.inl rfl
  | append_singleton turns t ih =>
    have ih := ih fun u hu => h u (List.mem_append_left _ hu)
    cases t with
    | write w => exact absurd rfl (h _ (List.mem_append_right _ (List.mem_singleton_self _)) w)
    | clear g k =>
      have hget : (applyAll (turns ++ [.clear g k]) store).get? key =
          if k = key then none else (applyAll turns store).get? key := by
        rw [applyAll_append]
        exact Entries.get?_erase _ _ _
      by_cases hk : k = key
      · subst hk
        rw [if_pos rfl] at hget
        exact Or.inr ⟨hget, g, List.mem_append_right _ (List.mem_singleton_self _)⟩
      · rw [if_neg hk] at hget
        rw [hget]
        rcases ih with ih | ⟨ih, g', hg'⟩
        · exact Or.inl ih
        · exact Or.inr ⟨ih, g', List.mem_append_left _ hg'⟩

/-! ### One turn at a time -/

/-- The turn that the store is at. -/
def served? (c : Cache) : Option Turn := if c.serving.isSome then c.line.head? else none

theorem served?_of_idle {c : Cache} (h : c.serving = none) : c.served? = none := by
  rw [served?, h]
  rfl

theorem served?_of_serving {c : Cache} {t : Turn} {rest : List Turn} {due : Nat} (h : c.serving = some due)
    (hl : c.line = t :: rest) : c.served? = some t := by
  rw [served?, h, hl]
  rfl

/-- By the log, the store has turned to `t` and is not done with it. -/
def Busy (log : List Event) (t : Turn) : Prop :=
  ∃ before after, log = before ++ .began t :: after ∧ .ended t ∉ after

theorem busy_concat {log : List Event} {e : Event} {t : Turn} :
    Busy (log ++ [e]) t ↔ e = .began t ∨ Busy log t ∧ e ≠ .ended t := by
  constructor
  · -- The store has turned to `t` with the last event, or before it.
    rintro ⟨before, after, hlog, ht⟩
    rcases List.eq_nil_or_concat after with rfl | ⟨after, e', rfl⟩
    · obtain ⟨-, h⟩ := List.append_inj' hlog rfl
      exact Or.inl (List.cons.inj h).1
    · rw [List.concat_eq_append] at hlog ht
      rw [← List.cons_append, ← List.append_assoc] at hlog
      obtain ⟨hlog', h⟩ := List.append_inj' hlog rfl
      obtain rfl := (List.cons.inj h).1
      refine Or.inr ⟨⟨before, after, hlog', fun h => ht (List.mem_append_left _ h)⟩, ?_⟩
      rintro rfl
      exact ht (List.mem_append_right _ (List.mem_singleton_self _))
  · rintro (rfl | ⟨⟨before, after, rfl, ht⟩, he⟩)
    · exact ⟨log, [], rfl, List.not_mem_nil⟩
    · refine ⟨before, after ++ [e], by rw [List.append_assoc]; rfl, fun h => ?_⟩
      rcases List.mem_append.mp h with h | h
      · exact ht h
      · exact he (List.mem_singleton.mp h).symm

/-- The store is at the turn that the log tells, and at none when it is not serving. -/
structure Serves (log : List Event) (c : Cache) : Prop where
  busy : ∀ t, Busy log t ↔ c.served? = some t
  standing : c.serving.isSome → c.line ≠ []

namespace Serves
variable {window clock : Nat} {conduct : Conduct} {log : List Event} {c c' : Cache} {e : Event}

/-- The store turns to somebody, or is done with the one that it was at, or goes on as it was. -/
theorem cases_of_change (h : Serves log c) (hc : Change window conduct clock c e c') :
    (∃ t, e = .began t ∧ c.served? = none ∧ c'.served? = some t) ∨
    (∃ t, e = .ended t ∧ c.served? = some t ∧ c'.served? = none) ∨
    (∀ t, e ≠ .began t ∧ e ≠ .ended t) ∧ c'.served? = c.served? := by
  have longer : ∀ more : List Turn, (if c.serving.isSome then (c.line ++ more).head? else none) = c.served? := by
    intro more
    unfold served?
    split
    · rename_i hs
      obtain ⟨t, rest, hl⟩ := List.exists_cons_of_ne_nil (h.standing hs)
      rw [hl]
      rfl
    · rfl
  cases hc with
  | scheduled | dropped | ticked => exact Or.inr (Or.inr ⟨fun t => ⟨by simp, by simp⟩, rfl⟩)
  | cleared | elapsed => exact Or.inr (Or.inr ⟨fun t => ⟨by simp, by simp⟩, longer _⟩)
  | skipped hs =>
    refine Or.inr (Or.inr ⟨fun t => ⟨by simp, by simp⟩, ?_⟩)
    rw [served?_of_idle hs]
    exact served?_of_idle hs
  | began hs hl => exact Or.inl ⟨_, rfl, served?_of_idle hs, served?_of_serving rfl hl⟩
  | ended hs hl => exact Or.inr (Or.inl ⟨_, rfl, served?_of_serving hs hl, served?_of_idle rfl⟩)

theorem change (h : Serves log c) (hc : Change window conduct clock c e c') : Serves (log ++ [e]) c' := by
  refine ⟨fun t => ?_, fun hs => ?_⟩
  · rw [busy_concat, h.busy]
    rcases h.cases_of_change hc with ⟨u, rfl, hu, hu'⟩ | ⟨u, rfl, hu, hu'⟩ | ⟨he, hu⟩
    · rw [hu, hu']
      simp
    · rw [hu, hu']
      simp
    · rw [hu]
      simp [he t]
  · cases hc with
    | scheduled | dropped | ticked => exact h.standing hs
    | cleared | elapsed => exact List.concat_ne_nil _ _
    | skipped hs' => rw [hs'] at hs; cases hs
    | began _ hl => rw [hl]; exact List.cons_ne_nil _ _
    | ended => cases hs

theorem start (store : Entries Answers) : Serves [] { store := store } := by
  refine ⟨fun t => ⟨?_, fun h => by cases h⟩, fun hs => by cases hs⟩
  rintro ⟨before, after, hlog, -⟩
  simp at hlog

end Serves

end Cache

namespace TimedCache.Reaches
open Cache

variable {window : Nat} {conduct : Conduct} {store : Entries Answers} {clock : Nat} {log : List Event}
  {t₀ t : TimedCache}

theorem orderly (h : Reaches window conduct (new store clock) log t) : Orderly log t.cache := by
  refine by_changes (motive := Orderly) ?_ ?_ h
  · exact Orderly.start store
  · intro log t e c _ hc ih
    exact ih.change hc

theorem serves (h : Reaches window conduct (new store clock) log t) : Serves log t.cache := by
  refine by_changes (motive := Serves) ?_ ?_ h
  · exact Serves.start store
  · intro log t e c _ hc ih
    exact ih.change hc

/-- A store that never fails holds what the turns that it has carried out made of what it held at first. -/
theorem store_eq (works : ∀ turn, conduct.works turn = true) (h : Reaches window conduct t₀ log t) :
    t.cache.store = applyAll (carriedOut log) t₀.cache.store := by
  refine by_changes (motive := fun log c => c.store = applyAll (carriedOut log) t₀.cache.store) rfl ?_ h
  intro log t e c _ hc ih
  rw [carriedOut_concat, applyAll_append, ← ih]
  cases hc with
  | ended => exact if_pos (works _)
  | scheduled | cleared | dropped | elapsed | skipped | began | ticked => rfl

end TimedCache.Reaches

end Questionnaire
