import Mathlib.Data.List.Nodup
import Questionnaire.Proofs.Cache.Order

/-!
# Only superseded writes are lost

A write is cancelled in one of two ways: while it waits, by whatever is asked for next or by the end of the cache, and
when the store turns to it and it is not the latest any more. `Overtaken` says from outside when that happens: something
else was asked for before the store turned to the write, or the cache was dropped before its window had closed. Every
other write is carried out.
-/

namespace Questionnaire

namespace Cache

/-- The store has turned to the write, be it to carry it out or not. -/
def Reached (log : List Event) (w : Write) : Prop := .began (.write w) ∈ log ∨ .skipped (.write w) ∈ log

/-- After the write, something else was asked for before the store turned to the write, or the cache was dropped before
the window of the write had closed. A window that closes late is open until it does. -/
def Overtaken (log : List Event) (w : Write) : Prop :=
  ∃ before e after, log = before ++ e :: after ∧ .write w ∈ issued before ∧
    (e.issued?.isSome ∧ ¬ Reached before w ∨ (∃ o, e = .dropped o) ∧ .elapsed w ∉ before)

section
variable {window clock : Nat} {conduct : Conduct} {c c' : Cache} {e : Event} {w : Write} {t : Turn}

theorem mem_line_of_served? (h : c.served? = some t) : t ∈ c.line := by
  obtain ⟨-, h⟩ := Option.ite_none_right_eq_some.mp h
  exact List.mem_of_head? h

/-- A write is cancelled while it waits, or when the store turns to it and it is not the latest. -/
theorem Change.cancelled_cases (hc : Change window conduct clock c e c') (he : e.cancelled? = some w) :
    c.waiting? = some w ∧ (e.issued?.isSome ∨ ∃ o, e = .dropped o) ∨
    c.served? = none ∧ .write w ∈ c.line ∧ w.generation ≠ c.generation := by
  cases hc with
  | scheduled | cleared => exact Or.inl ⟨he, Or.inl rfl⟩
  | dropped => exact Or.inl ⟨he, Or.inr ⟨_, rfl⟩⟩
  | @skipped t rest hs hl hstale =>
    cases t with
    | write w' =>
      obtain rfl := Option.some.inj he
      refine Or.inr ⟨served?_of_idle hs, ?_, bne_iff_ne.mp hstale⟩
      rw [hl]
      exact List.mem_cons_self
    | clear => cases he
  | elapsed | began | ended | ticked => cases he

theorem Change.cancelled_of_dropped {o : Option Write} (hc : Change window conduct clock c (.dropped o) c') :
    o = c.waiting? := by
  cases hc with
  | dropped => rfl

/-- What waits has waited before, or is new. -/
theorem Change.waiting_cases {due : Nat} (hc : Change window conduct clock c e c') (hw : c'.waiting = some (w, due)) :
    c.waiting = some (w, due) ∨ w.generation = c.generation + 1 := by
  cases hc with
  | scheduled hg =>
    obtain ⟨rfl, -⟩ := Prod.mk.inj (Option.some.inj hw)
    exact Or.inr hg
  | cleared | dropped | elapsed => cases hw
  | skipped | began | ended | ticked => exact Or.inl hw

theorem Change.due_of_scheduled {o : Option Write} {w' : Write} {due : Nat}
    (hc : Change window conduct clock c (.scheduled w' o) c') (hw : c'.waiting = some (w, due)) :
    due = clock + window := by
  cases hc with
  | scheduled =>
    obtain ⟨-, rfl⟩ := Prod.mk.inj (Option.some.inj hw)
    rfl

theorem Change.waiting_of_elapsed (hc : Change window conduct clock c (.elapsed w) c') :
    ∃ due, c.waiting = some (w, due) ∧ due ≤ clock := by
  cases hc with
  | elapsed hw hdue => exact ⟨_, hw, hdue⟩

/-- The store carries out the latest write only. -/
theorem Change.generation_of_began (hc : Change window conduct clock c (.began (.write w)) c') :
    w.generation = c.generation := by
  cases hc with
  | began _ _ hstale => exact bne_eq_false_iff_eq.mp hstale

/-- While something is still to come, there is a move that may happen as soon as it is time. -/
theorem exists_move? (conduct : Conduct) (clock : Nat) (h : ¬ IsIdle c) :
    ∃ time m c', c.move? conduct (clock + time) m = some c' := by
  cases hl : c.line with
  | nil =>
    cases hw : c.waiting with
    | none =>
      refine absurd ?_ h
      rw [IsIdle, outstanding, hl, waiting?, hw]
      rfl
    | some waits =>
      obtain ⟨w, due⟩ := waits
      refine ⟨due, .queue, { c with waiting := none, line := c.line ++ [.write w] }, ?_⟩
      simp only [move?, hw]
      exact if_pos (Nat.le_add_left due clock)
  | cons turn rest =>
    cases hs : c.serving with
    | none =>
      refine ⟨0, .serve, ?_⟩
      simp only [move?, hl, hs]
      split
      · exact ⟨_, rfl⟩
      · exact ⟨_, rfl⟩
    | some due =>
      refine ⟨due, .finish, ?_⟩
      simp only [move?, hl, hs]
      exact ⟨_, if_pos (Nat.le_add_left due clock)⟩

end

/-- The writes in line are those whose windows have closed. -/
structure Joined (log : List Event) (c : Cache) : Prop where
  waits : ∀ w, c.waiting? = some w → .elapsed w ∉ log
  lines : ∀ w, .write w ∈ c.line → .elapsed w ∈ log
  known : ∀ w, .elapsed w ∈ log → .write w ∈ issued log

namespace Joined
variable {window clock : Nat} {conduct : Conduct} {log : List Event} {c c' : Cache} {e : Event}

/-- Of the writes that stand where they stood, what was so stays so. -/
theorem keep (h : Joined log c) (he : ∀ w, e ≠ .elapsed w) (hw : ∀ w, c'.waiting? = some w → .elapsed w ∉ log)
    (hl : ∀ w, .write w ∈ c'.line → .write w ∈ c.line) : Joined (log ++ [e]) c' := by
  have mem_concat : ∀ w, .elapsed w ∈ log ++ [e] ↔ .elapsed w ∈ log := fun w => by
    rw [List.mem_append, List.mem_singleton]
    exact or_iff_left (he w).symm
  refine ⟨fun w hw' => ?_, fun w hw' => ?_, fun w hw' => ?_⟩
  · rw [mem_concat]
    exact hw w hw'
  · rw [mem_concat]
    exact h.lines w (hl w hw')
  · rw [issued_concat]
    exact List.mem_append_left _ (h.known w ((mem_concat w).mp hw'))

theorem change (h : Joined log c) (ho : Orderly log c) (hc : Change window conduct clock c e c') :
    Joined (log ++ [e]) c' := by
  cases hc with
  | @scheduled w hg =>
    refine h.keep (fun _ => nofun) (fun w' hw' helapsed => ?_) fun _ => id
    obtain rfl : w = w' := Option.some.inj hw'
    have : w.generation ≤ c.generation := ho.latest _ (h.known w helapsed)
    omega
  | cleared =>
    refine h.keep (fun _ => nofun) nofun fun w hw => ?_
    exact (List.mem_append.mp hw).resolve_right fun hw => nomatch List.mem_singleton.mp hw
  | dropped => exact h.keep (fun _ => nofun) nofun fun _ => id
  | @elapsed w due hw =>
    refine ⟨nofun, fun w' hw' => ?_, fun w' hw' => ?_⟩
    · rcases List.mem_append.mp hw' with hw' | hw'
      · exact List.mem_append_left _ (h.lines w' hw')
      · obtain rfl := Turn.write.inj (List.mem_singleton.mp hw')
        exact List.mem_append_right _ (List.mem_singleton_self _)
    · rw [issued_concat]
      refine List.mem_append_left _ ?_
      rcases List.mem_append.mp hw' with hw' | hw'
      · exact h.known w' hw'
      · obtain rfl := Event.elapsed.inj (List.mem_singleton.mp hw')
        exact ho.mem_issued_iff.mpr (Or.inr (Or.inl (mem_outstanding_of_waiting? (waiting?_eq_some.mpr ⟨_, hw⟩))))
  | skipped _ hl _ | ended _ hl =>
    refine h.keep (fun _ => nofun) h.waits fun w hw => ?_
    rw [hl]
    exact List.mem_cons_of_mem _ hw
  | began | ticked => exact h.keep (fun _ => nofun) h.waits fun _ => id

theorem start (store : Entries Answers) : Joined [] { store := store } :=
  ⟨nofun, nofun, nofun⟩

end Joined

end Cache

namespace TimedCache
open Cache

section
variable {window : Nat} {conduct : Conduct} {store : Entries Answers} {clock : Nat} {log : List Event}
  {t : TimedCache} {w : Write}

namespace Reaches

theorem joined (h : Reaches window conduct (new store clock) log t) : Joined log t.cache := by
  refine by_changes (motive := Joined) ?_ ?_ h
  · exact Joined.start store
  · intro log t e c ht hc ih
    exact ih.change ht.orderly hc

/-! ### What the log tells of a write -/

theorem served?_of_began {turn : Turn} (h : Reaches window conduct (new store clock) log t) (hb : .began turn ∈ log) :
    t.cache.served? = some turn ∨ turn ∈ carriedOut log := by
  obtain ⟨before, after, rfl⟩ := List.append_of_mem hb
  by_cases hended : .ended turn ∈ after
  · exact Or.inr (mem_carriedOut.mpr (List.mem_append_right _ (List.mem_cons_of_mem _ hended)))
  · exact Or.inl ((h.serves.busy turn).mp ⟨before, after, rfl, hended⟩)

theorem began_of_ended {turn : Turn} (h : Reaches window conduct (new store clock) log t) (he : .ended turn ∈ log) :
    .began turn ∈ log := by
  obtain ⟨before, after, rfl⟩ := List.append_of_mem he
  obtain ⟨t₁, t₂, h₁, hc, -⟩ := h.split_at
  rcases h₁.serves.cases_of_change hc with ⟨_, he, -⟩ | ⟨_, he, hserved, -⟩ | ⟨he, -⟩
  · cases he
  · obtain rfl := Event.ended.inj he
    obtain ⟨first, rest, rfl, -⟩ := (h₁.serves.busy turn).mpr hserved
    simp
  · exact absurd rfl (he turn).2

theorem elapsed_of_began (h : Reaches window conduct (new store clock) log t) (hb : .began (.write w) ∈ log) :
    .elapsed w ∈ log := by
  obtain ⟨before, after, rfl⟩ := List.append_of_mem hb
  obtain ⟨t₁, t₂, h₁, hc, -⟩ := h.split_at
  obtain ⟨rest, hl⟩ := hc.line_of_turn (Or.inl rfl)
  exact List.mem_append_left _ (h₁.joined.lines w (hl ▸ List.mem_cons_self))

/-- The store has not turned to a write that is still to come, unless it is at it. -/
theorem not_reached (h : Reaches window conduct (new store clock) log t) (hw : .write w ∈ t.cache.outstanding)
    (hs : t.cache.served? ≠ some (.write w)) : ¬ Reached log w := by
  rintro (hbegan | hskipped)
  · rcases h.served?_of_began hbegan with hserved | hdone
    · exact hs hserved
    · have apart := (List.pairwise_append.mp h.orderly.increasing_turns).2.2 _ hdone _ hw
      exact Nat.lt_irrefl _ apart
  · exact (h.orderly.not_mem_of_cancelled (List.mem_filterMap.mpr ⟨_, hskipped, rfl⟩)).2 hw

theorem not_served?_of_waiting? (h : Reaches window conduct (new store clock) log t)
    (hw : t.cache.waiting? = some w) : t.cache.served? ≠ some (.write w) := by
  intro hserved
  have apart := (List.pairwise_append.mp h.orderly.increasing_turns).2.1
  rw [outstanding, hw, List.pairwise_append] at apart
  exact Nat.lt_irrefl _ (apart.2.2 _ (mem_line_of_served? hserved) _ (List.mem_singleton_self _))

/-! ### Time -/

theorem wait (time : Nat) : Reaches window conduct t (List.replicate time .ticked) ⟨t.cache, t.clock + time⟩ := by
  induction time with
  | zero => exact refl
  | succ time ih =>
    rw [List.replicate_succ']
    exact ih.step .tick rfl

/-- The window of a write is open for its time from when the write is asked for. -/
theorem due_eq (h : Reaches window conduct (new store clock) log t) {before after : List Event} {o : Option Write}
    {due : Nat} (hw : t.cache.waiting = some (w, due)) (hlog : log = before ++ .scheduled w o :: after) :
    due = clock + ticks before + window := by
  induction h generalizing after with
  | refl => cases hw
  | @step log t e t' a ht ha ih =>
    rcases List.eq_nil_or_concat after with rfl | ⟨after, e', rfl⟩
    · obtain ⟨rfl, he⟩ := List.append_inj' hlog rfl
      obtain rfl := (List.cons.inj he).1
      rw [(act?_change ha).1.due_of_scheduled hw, ht.clock_eq]
      rfl
    · rw [List.concat_eq_append, ← List.cons_append, ← List.append_assoc] at hlog
      obtain ⟨rfl, -⟩ := List.append_inj' hlog rfl
      rcases (act?_change ha).1.waiting_cases hw with hsame | hnew
      · exact ih hsame rfl
      · -- A write that is asked for now was not asked for before.
        have : w.generation ≤ t.cache.generation :=
          ht.orderly.latest (.write w) (mem_issued_split.mpr (Or.inr (Or.inl rfl)))
        omega

/-- The window of a write does not close before its time. -/
theorem window_le_ticks (h : Reaches window conduct (new store clock) log t) {before between after : List Event}
    {o : Option Write} (hlog : log = before ++ .scheduled w o :: (between ++ .elapsed w :: after)) :
    window ≤ ticks between := by
  rw [hlog, ← List.cons_append, ← List.append_assoc] at h
  obtain ⟨t₁, t₂, h₁, hc, -⟩ := h.split_at
  obtain ⟨due, hwaits, hdue⟩ := hc.waiting_of_elapsed
  have hopen := h₁.due_eq hwaits rfl
  have hnow : t₁.clock = clock + (ticks before + ticks between) := by
    rw [h₁.clock_eq, ticks, List.countP_append, List.countP_cons]
    rfl
  omega

/-! ### Cancelled writes -/

/-- Something was asked for after a write that is not the latest. -/
theorem overtaken_of_stale (h : Reaches window conduct (new store clock) log t) (hw : .write w ∈ issued log)
    (hg : w.generation ≠ t.cache.generation) (hr : ¬ Reached log w) : Overtaken log w := by
  obtain ⟨newest, hnewest, heq⟩ := h.orderly.newest (List.ne_nil_of_mem hw)
  have hlt : w.generation < newest.generation := by
    have : w.generation ≤ t.cache.generation := h.orderly.latest _ hw
    omega
  obtain ⟨e, he, hissued⟩ := List.mem_filterMap.mp hnewest
  obtain ⟨before, after, rfl⟩ := List.append_of_mem he
  refine ⟨before, e, after, rfl, ?_, Or.inl ⟨?_, fun hreached => hr ?_⟩⟩
  · rcases mem_issued_split.mp hw with hw | hw | hw
    · exact hw
    · obtain rfl := Option.some.inj (hissued.symm.trans hw)
      exact absurd hlt (Nat.lt_irrefl _)
    · exact absurd hlt (Nat.lt_asymm (h.orderly.lt_of_later hissued hw))
  · rw [hissued]
    rfl
  · exact hreached.imp (List.mem_append_left _) (List.mem_append_left _)

theorem overtaken_append {before after : List Event} (h : Overtaken before w) : Overtaken (before ++ after) w := by
  obtain ⟨first, e, rest, rfl, hw, hcase⟩ := h
  exact ⟨first, e, rest ++ after, by simp, hw, hcase⟩

/-- A write that is cancelled has been overtaken. -/
theorem overtaken_of_cancelled (h : Reaches window conduct (new store clock) log t) (hw : w ∈ cancelled log) :
    Overtaken log w := by
  obtain ⟨e, he, hcancel⟩ := List.mem_filterMap.mp hw
  obtain ⟨before, after, rfl⟩ := List.append_of_mem he
  obtain ⟨t₁, t₂, h₁, hc, -⟩ := h.split_at
  have hleft := hc.cancelled_mem hcancel
  have hissued := h₁.orderly.mem_issued_iff.mpr (Or.inr (Or.inl hleft))
  rcases hc.cancelled_cases hcancel with ⟨hwaits, hnew | hdrop⟩ | ⟨hidle, -, hold⟩
  · exact ⟨before, e, after, rfl, hissued,
      Or.inl ⟨hnew, h₁.not_reached hleft (h₁.not_served?_of_waiting? hwaits)⟩⟩
  · exact ⟨before, e, after, rfl, hissued, Or.inr ⟨hdrop, h₁.joined.waits w hwaits⟩⟩
  · refine overtaken_append (h₁.overtaken_of_stale hissued hold (h₁.not_reached hleft ?_))
    rw [hidle]
    nofun

/-- The store never turns to a write once something else has been asked for. -/
theorem not_began_of_issued {before after : List Event} {e : Event}
    (h : Reaches window conduct (new store clock) (before ++ e :: after) t) (hw : .write w ∈ issued before)
    (he : e.issued?.isSome) : .began (.write w) ∉ after := by
  intro hbegan
  obtain ⟨between, rest, rfl⟩ := List.append_of_mem hbegan
  obtain ⟨newer, hnewer⟩ := Option.isSome_iff_exists.mp he
  rw [← List.cons_append, ← List.append_assoc] at h
  obtain ⟨t₁, t₂, h₁, hc, -⟩ := h.split_at
  have hlatest := h₁.orderly.latest newer (mem_issued_split.mpr (Or.inr (Or.inl hnewer)))
  have hlt : w.generation < newer.generation := h₁.orderly.lt_of_earlier hw hnewer
  have := hc.generation_of_began
  omega

/-- The store never turns to a write that was waiting when the cache was dropped. -/
theorem not_began_of_dropped {before after : List Event} {o : Option Write}
    (h : Reaches window conduct (new store clock) (before ++ .dropped o :: after) t) (hw : .write w ∈ issued before)
    (helapsed : .elapsed w ∉ before) : .began (.write w) ∉ after := by
  intro hbegan
  obtain ⟨between, rest, rfl⟩ := List.append_of_mem hbegan
  have hsplit : before ++ .dropped o :: (between ++ .began (.write w) :: rest) =
      (before ++ .dropped o :: between) ++ .began (.write w) :: rest := by simp
  obtain ⟨t₁, t₂, h₁, hc, -⟩ := h.split_at
  rw [hsplit] at h
  obtain ⟨t₃, t₄, h₃, hc', -⟩ := h.split_at
  -- The write is still to come when the store turns to it, but it was cancelled, at the latest by the drop.
  refine (h₃.orderly.not_mem_of_cancelled ?_).2 (hc'.turn_mem rfl)
  rw [cancelled, filterMap_split]
  rcases h₁.orderly.mem_issued_iff.mp hw with hdone | hleft | ⟨w', hcancelled, hw'⟩
  · exact absurd (h₁.elapsed_of_began (h₁.began_of_ended (mem_carriedOut.mp hdone))) helapsed
  · rcases List.mem_append.mp hleft with hline | hwaits
    · exact absurd (h₁.joined.lines w hline) helapsed
    · obtain ⟨w', hwait, hw'⟩ := List.mem_map.mp hwaits
      obtain rfl := Turn.write.inj hw'
      obtain rfl := hc.cancelled_of_dropped
      exact List.mem_append_right _ (List.mem_append_left _ hwait)
  · obtain rfl := Turn.write.inj hw'
    exact List.mem_append_left _ hcancelled

/-- The store never carries out a write that has been overtaken. -/
theorem not_began_of_overtaken (h : Reaches window conduct (new store clock) log t) (ho : Overtaken log w) :
    .began (.write w) ∉ log := by
  obtain ⟨before, e, after, rfl, hw, hcase⟩ := ho
  rw [List.mem_append, List.mem_cons, not_or, not_or]
  rcases hcase with ⟨he, hr⟩ | ⟨⟨o, rfl⟩, helapsed⟩
  · refine ⟨fun hbegan => hr (Or.inl hbegan), ?_, h.not_began_of_issued hw he⟩
    rintro rfl
    cases he
  · obtain ⟨t₁, h₁, -⟩ := h.split
    exact ⟨fun hbegan => helapsed (h₁.elapsed_of_began hbegan), nofun, h.not_began_of_dropped hw helapsed⟩

theorem not_carriedOut_of_overtaken (h : Reaches window conduct (new store clock) log t) (ho : Overtaken log w) :
    .write w ∉ carriedOut log := fun hdone =>
  h.not_began_of_overtaken ho (h.began_of_ended (mem_carriedOut.mp hdone))

/-! ### The end of the work -/

/-- Once nothing is left to come, the writes that were overtaken have been cancelled and the others carried out. -/
theorem settled (h : Reaches window conduct (new store clock) log t) (hidle : IsIdle t.cache)
    (hw : .write w ∈ issued log) :
    (w ∈ cancelled log ↔ Overtaken log w) ∧ (.write w ∈ carriedOut log ↔ ¬ Overtaken log w) := by
  have done : .write w ∈ carriedOut log ∨ w ∈ cancelled log := by
    rcases h.orderly.mem_issued_iff.mp hw with hdone | hleft | ⟨w', hcancelled, hw'⟩
    · exact Or.inl hdone
    · rw [hidle] at hleft
      cases hleft
    · exact Or.inr (Turn.write.inj hw' ▸ hcancelled)
  refine ⟨⟨h.overtaken_of_cancelled, fun ho => done.resolve_left (h.not_carriedOut_of_overtaken ho)⟩,
    fun hdone ho => h.not_carriedOut_of_overtaken ho hdone, fun ho => done.resolve_right fun hc => ?_⟩
  exact ho (h.overtaken_of_cancelled hc)

/-- The latest write is overtaken only by the end of the cache. -/
theorem dropped_of_overtaken {turns : List Turn} (h : Reaches window conduct (new store clock) log t)
    (hlast : issued log = turns ++ [.write w]) (ho : Overtaken log w) :
    ∃ before o after, log = before ++ .dropped o :: after ∧ .write w ∈ issued before ∧ .elapsed w ∉ before := by
  obtain ⟨before, e, after, rfl, hw, ⟨he, -⟩ | ⟨⟨o, rfl⟩, helapsed⟩⟩ := ho
  · obtain ⟨newer, hnewer⟩ := Option.isSome_iff_exists.mp he
    have hle := h.orderly.le_last hlast (mem_issued_split.mpr (Or.inr (Or.inl hnewer)))
    exact absurd (h.orderly.lt_of_earlier hw hnewer) (Nat.not_lt.mpr hle)
  · exact ⟨before, o, after, rfl, hw, helapsed⟩

/-- What the latest write has brought to the store is there. -/
theorem get?_of_latest {turns : List Turn} (works : ∀ turn, conduct.works turn = true)
    (h : Reaches window conduct (new store clock) log t) (hlast : issued log = turns ++ [.write w])
    (hdone : .write w ∈ carriedOut log) : t.cache.store.get? w.key = some w.answers := by
  obtain ⟨first, rest, hsplit⟩ := List.append_of_mem hdone
  have hrest : rest = [] := by
    refine List.eq_nil_iff_forall_not_mem.mpr fun turn hturn => ?_
    have hmem : turn ∈ carriedOut log := hsplit ▸ List.mem_append_right _ (List.mem_cons_of_mem _ hturn)
    have apart := (List.pairwise_append.mp h.orderly.increasing_turns).1
    rw [hsplit, List.pairwise_append, List.pairwise_cons] at apart
    have hle := h.orderly.le_last hlast (h.orderly.mem_issued_iff.mpr (Or.inl hmem))
    exact Nat.not_lt.mpr hle (apart.2.1.1 _ hturn)
  have hstore : t.cache.store = (applyAll first store).insert w.key w.answers := by
    rw [h.store_eq works, hsplit, hrest, applyAll_append]
    rfl
  rw [hstore, Entries.get?_insert, if_pos rfl]

/-- A cache that is left alone comes to rest. -/
theorem comes_to_rest (window : Nat) (conduct : Conduct) (t : TimedCache) :
    ∃ log t', Reaches window conduct t log t' ∧ (∀ e ∈ log, e.isUse = false) ∧ IsIdle t'.cache := by
  induction hn : t.cache.work using Nat.strongRecOn generalizing t with
  | ind n ih =>
    subst hn
    by_cases hidle : IsIdle t.cache
    · exact ⟨[], t, refl, nofun, hidle⟩
    · obtain ⟨time, m, c, hm⟩ := exists_move? conduct t.clock hidle
      obtain ⟨e, he, -⟩ := move?_change window hm
      obtain ⟨log, t', h', hlog, hidle'⟩ := ih c.work (Cache.work_move? hm) ⟨c, t.clock + time⟩ rfl
      have hact : act? window conduct (.move m) ⟨t.cache, t.clock + time⟩ = some (e, ⟨c, t.clock + time⟩) := by
        simp only [act?, he, hm, Option.bind_eq_bind, Option.bind_some, Option.pure_def]
      refine ⟨_, t', ((wait time).step (.move m) hact).trans h', fun e' he' => ?_, hidle'⟩
      rcases List.mem_append.mp he' with he' | he'
      · rcases List.mem_append.mp he' with he' | he'
        · rw [List.eq_of_mem_replicate he']
          rfl
        · rw [List.mem_singleton.mp he']
          exact (event?_isUse he).1
      · exact hlog e' he'

end Reaches

/-- In every run of a cache over a store that never fails, at whatever pace. What the store holds is what it has
carried out: turns that were asked for, as they were, each one once and in their order. A write is cancelled only when
it has been overtaken, and one that has been overtaken is never begun; the window of a write does not close before its
time. Once nothing is left to come, the writes that were cancelled are those that were overtaken, and all others have
been carried out; and if the last thing asked for was a write, and the cache was not dropped while its window was
open, the store holds its answers. A cache that is left alone does come to that. -/
theorem only_superseded_lost (works : ∀ turn, conduct.works turn = true)
    (h : Reaches window conduct (new store clock) log t) :
    t.cache.store = applyAll (carriedOut log) store ∧
    (carriedOut log).Sublist (issued log) ∧ (writes (carriedOut log)).Sublist (writes (issued log)) ∧
    (writes (issued log)).Nodup ∧
    (∀ w ∈ cancelled log, Overtaken log w) ∧
    (∀ w, Overtaken log w → .began (.write w) ∉ log ∧ .write w ∉ carriedOut log) ∧
    (∀ before between after w o, log = before ++ .scheduled w o :: (between ++ .elapsed w :: after) →
      window ≤ ticks between) ∧
    (IsIdle t.cache → ∀ w, .write w ∈ issued log →
      (w ∈ cancelled log ↔ Overtaken log w) ∧ (.write w ∈ carriedOut log ↔ ¬ Overtaken log w)) ∧
    (IsIdle t.cache → ∀ turns w, issued log = turns ++ [.write w] →
      (∀ before o after, log = before ++ .dropped o :: after → .write w ∈ issued before → .elapsed w ∈ before) →
      t.cache.store.get? w.key = some w.answers) ∧
    ∃ more t', Reaches window conduct t more t' ∧ (∀ e ∈ more, e.isUse = false) ∧ IsIdle t'.cache := by
  have order : (carriedOut log).Sublist (issued log) := (List.sublist_append_left _ _).trans h.orderly.order
  refine ⟨h.store_eq works, order, order.filterMap _, ?_, fun w => h.overtaken_of_cancelled,
    fun w ho => ⟨h.not_began_of_overtaken ho, h.not_carriedOut_of_overtaken ho⟩,
    fun before between after w o => h.window_le_ticks, fun hidle w => h.settled hidle,
    fun hidle turns w hlast hdrops => ?_, Reaches.comes_to_rest window conduct t⟩
  · refine List.Nodup.filterMap (fun a b w ha hb => ?_) h.orderly.nodup_issued
    cases a with
    | write => cases b with
      | write => exact congrArg Turn.write ((Option.some.inj ha).trans (Option.some.inj hb).symm)
      | clear => cases hb
    | clear => cases ha
  · refine h.get?_of_latest works hlast (((h.settled hidle ?_).2).mpr fun ho => ?_)
    · rw [hlast]
      exact List.mem_append_right _ (List.mem_singleton_self _)
    · obtain ⟨before, o, after, hlog, hw, helapsed⟩ := h.dropped_of_overtaken hlast ho
      exact helapsed (hdrops before o after hlog hw)

end

/-- Three writes, of which the second is asked for while the first waits, and the third while the store is at the
second: the first one is lost, and the other two are carried out. -/
theorem only_superseded_lost_of_three :
    let first : Write := ⟨1, "k", ∅⟩
    let second : Write := ⟨2, "k", ∅⟩
    let third : Write := ⟨3, "j", ∅⟩
    let log : List Event := [.scheduled first none, .ticked, .scheduled second (some first), .ticked, .ticked,
      .elapsed second, .began (.write second), .scheduled third none, .ticked, .ended (.write second), .ticked,
      .elapsed third, .began (.write third), .ticked, .ended (.write third)]
    ∃ t, Reaches 2 slow (new ∅ 0) log t ∧ IsIdle t.cache ∧ Overtaken log first ∧ ¬ Overtaken log second ∧
      t.cache.store.get? "j" = some ∅ := by
  intro first second third log
  obtain ⟨t, h, hidle⟩ : ∃ t, Reaches 2 slow (new ∅ 0) log t ∧ IsIdle t.cache :=
    ⟨_, Reaches.of_follow? [.schedule "k" ∅, .tick, .schedule "k" ∅, .tick, .tick, .move .queue, .move .serve,
      .schedule "j" ∅, .tick, .move .finish, .tick, .move .queue, .move .serve, .tick, .move .finish] rfl, rfl⟩
  obtain ⟨-, -, -, -, lost, -, -, settled, latest, -⟩ := only_superseded_lost (fun _ => rfl) h
  refine ⟨t, h, hidle, lost first (by simp [log, cancelled, Event.cancelled?]), ?_, ?_⟩
  · refine (settled hidle second (by simp [log, issued, Event.issued?])).2.mp ?_
    simp [log, carriedOut, Event.ended?]
  · refine latest hidle [.write first, .write second] third rfl fun before o after hlog => ?_
    have hmem : .dropped o ∈ log := hlog ▸ List.mem_append_right _ List.mem_cons_self
    simp [log] at hmem

end TimedCache

end Questionnaire
