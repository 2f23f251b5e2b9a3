import Questionnaire.Proofs.Cache.Coalescing
import Questionnaire.Proofs.Session.Caching
import Questionnaire.Proofs.Session.Return
import Questionnaire.Proofs.Session.Serial
import Questionnaire.Proofs.Session.Submitting
import Questionnaire.Session.Timeline

/-!
# Every call comes to its end

A call waits at three stages only: for submissions, for the observer and for the removal of the cached answers. The
sink, the clock and the cache go on by themselves until it has to wait no longer, however they behave, so that no call
is ever stuck; and calls can be made one after the other, each when the one before has been answered.
-/

namespace Questionnaire.Run

/-- The sink, the cache or the clock goes on by itself. -/
def Move.isAmbient : Move → Bool
  | deliver _ | cache _ | tick => true
  | call _ | advance _ => false

/-- The runs that come of one by itself, while nobody calls and no call goes on. -/
inductive Waits [Grammars] (setup : Setup) (r₀ : Run) : Run → Prop
  | refl : Waits setup r₀ r₀
  | step {r r'} (m : Move) : Waits setup r₀ r → m.isAmbient = true → r.move? setup m = some r' → Waits setup r₀ r'

/-- What goes on by itself does not touch the session or its calls, and the observer is told nothing. -/
structure Still (r r' : Run) : Prop where
  session : r'.session = r.session
  calls : r'.calls = r.calls
  events : r'.events = r.events

/-- A call that was made and answered, with the runs before and after. -/
structure Played where
  call : Call
  before : Run
  answer : Option Transition
  after : Run

/-- Calls are made one after the other, each one when the one before has been answered. -/
inductive Plays [Grammars] (setup : Setup) (r₀ : Run) : List Played → Run → Prop
  | nil : Plays setup r₀ [] r₀
  | concat {played c t r r₁ r'} : Plays setup r₀ played r → r.move? setup (.call c) = some r₁ →
      Completes setup r.calls.length r₁ t r' → Plays setup r₀ (played ++ [⟨c, r, t, r'⟩]) r'

/-! ### Waiting -/

section
variable [Grammars] {setup : Setup} {r r₁ r₂ r' : Run} {m : Move} {n : Nat} {t : Option Transition}

theorem move?_still (hm : m.isAmbient = true) (h : r.move? setup m = some r') : Still r r' := by
  cases m with
  | call | advance => cases hm
  | deliver k =>
    simp only [move?] at h
    split at h
    · split at h
      · obtain rfl := Option.some.inj h
        exact ⟨rfl, rfl, rfl⟩
      · cases h
    · cases h
  | cache =>
    obtain ⟨c, -, rfl⟩ := Option.map_eq_some_iff.mp h
    exact ⟨rfl, rfl, rfl⟩
  | tick =>
    obtain rfl := Option.some.inj h
    exact ⟨rfl, rfl, rfl⟩

omit [Grammars] in
theorem passage?_of_isAmbient (hm : m.isAmbient = true) (r : Run) : r.passage? m = none := by
  cases m with
  | call | advance => cases hm
  | deliver | cache | tick => rfl

omit [Grammars] in
theorem Move.isFor_of_isAmbient (hm : m.isAmbient = true) (n : Nat) : m.isFor n = true := by
  cases m with
  | call | advance => cases hm
  | deliver | cache | tick => rfl

omit [Grammars] in
/-- Whatever goes on for a call is its own section, or goes on by itself. -/
theorem Move.isAmbient_or_advance (hm : m.isFor n = true) : m.isAmbient = true ∨ m = .advance n := by
  cases m with
  | call => cases hm
  | advance k =>
    obtain rfl := eq_of_beq hm
    exact Or.inr rfl
  | deliver | cache | tick => exact Or.inl rfl

theorem Waits.still (h : Waits setup r r') : Still r r' := by
  induction h with
  | refl => exact ⟨rfl, rfl, rfl⟩
  | step m _ hm hmove ih =>
    have still := move?_still hm hmove
    exact ⟨still.session.trans ih.session, still.calls.trans ih.calls, still.events.trans ih.events⟩

theorem Waits.reaches (h : Waits setup r r') : Reaches setup r [] r' := by
  induction h with
  | refl => exact Reaches.refl
  | @step r₁ r₂ m _ hm hmove ih =>
    have := ih.step m hmove
    rwa [passage?_of_isAmbient hm, Option.toList_none, List.append_nil] at this

theorem Waits.trans (h : Waits setup r r₁) (h' : Waits setup r₁ r₂) : Waits setup r r₂ := by
  induction h' with
  | refl => exact h
  | step m _ hm hmove ih => exact ih.step m hm hmove

theorem Waits.completes (h : Waits setup r r₁) (h' : Completes setup n r₁ t r') : Completes setup n r t r' := by
  induction h with
  | refl => exact h'
  | step m _ hm hmove ih => exact ih (.step m (Move.isFor_of_isAmbient hm n) hmove h')

theorem Waits.of_move (hm : m.isAmbient = true) (h : r.move? setup m = some r₁) (h' : Waits setup r₁ r') :
    Waits setup r r' := (Waits.refl.step m hm h).trans h'

/-- A call that is done changes nothing any more. -/
theorem Completes.of_done {t' : Option Transition} (h : Completes setup n r t r')
    (hn : r.calls[n]? = some (.done t')) : t = t' ∧ Waits setup r r' := by
  induction h with
  | done hdone =>
    rw [hn] at hdone
    exact ⟨(Stage.done.inj (Option.some.inj hdone)).symm, .refl⟩
  | @step r r₁ r' t m hfor hm _ ih =>
    rcases Move.isAmbient_or_advance hfor with ham | rfl
    · obtain ⟨ht, hwaits⟩ := ih (by rw [(move?_still ham hm).calls, hn])
      exact ⟨ht, .of_move ham hm hwaits⟩
    · obtain ⟨_, _, acts, -⟩ := Acts.of_move? hm hn
      exact absurd acts.passed.effect.rank_lt (Nat.not_lt_zero _)

/-- A call that is not done waits, goes through its section, and completes from there. -/
theorem Completes.first {stage : Stage} (h : Completes setup n r t r') (hn : r.calls[n]? = some stage)
    (hdone : ∀ t, stage ≠ .done t) :
    ∃ r₁ r₂, Waits setup r r₁ ∧ r₁.move? setup (.advance n) = some r₂ ∧ Completes setup n r₂ t r' := by
  induction h with
  | done hd =>
    rw [hn] at hd
    exact absurd (Option.some.inj hd) (hdone _)
  | @step r r₁ r' t m hfor hm hrest ih =>
    rcases Move.isAmbient_or_advance hfor with ham | rfl
    · obtain ⟨r₂, r₃, hwaits, hmove, hcompletes⟩ := ih (by rw [(move?_still ham hm).calls, hn])
      exact ⟨r₂, r₃, .of_move ham hm hwaits, hmove, hcompletes⟩
    · exact ⟨r, r₁, .refl, hm, hrest⟩

/-- Time goes by as long as one likes. -/
theorem waits_time (setup : Setup) (r : Run) (time : Nat) : Waits setup r { r with clock := r.clock + time } := by
  induction time with
  | zero => exact Waits.refl
  | succ time ih => exact ih.step .tick rfl rfl

/-- What the cache does by itself happens in the run. -/
theorem waits_of_timed {log : List Cache.Event} {t : TimedCache}
    (h : TimedCache.Reaches setup.window setup.conduct r.timed log t) (hlog : ∀ e ∈ log, e.isUse = false) :
    Waits setup r { r with cache := t.cache, clock := t.clock } := by
  induction h with
  | refl => exact Waits.refl
  | @step log t e t' a _ ha ih =>
    have waits := ih fun e' he' => hlog e' (List.mem_append_left _ he')
    have hown := hlog e (List.mem_append_right _ (List.mem_singleton_self e))
    cases a with
    | schedule | clear | drop =>
      cases ha
      cases hown
    | move m =>
      simp only [TimedCache.act?, Option.bind_eq_bind, Option.bind_eq_some_iff, Option.pure_def, Option.some.injEq] at ha
      obtain ⟨e', -, c, hc, ha⟩ := ha
      cases ha
      refine waits.step (.cache m) rfl ?_
      simp only [move?, hc, Option.map_some]
    | tick =>
      cases ha
      exact waits.step .tick rfl rfl

/-- The cache comes to rest. -/
theorem waits_rest (setup : Setup) (r : Run) : ∃ r', Waits setup r r' ∧ r'.cache.IsIdle := by
  obtain ⟨log, t, h, hlog, hidle⟩ := TimedCache.Reaches.comes_to_rest setup.window setup.conduct r.timed
  exact ⟨_, waits_of_timed h hlog, hidle⟩

/-- The sink is done with a submission that is due. -/
theorem move?_deliver_of_due {sink : Sink} {delivery : Delivery} (hsink : setup.sink = some sink)
    (hd : r.deliveries[n]? = some delivery) (hdone : delivery.isDone = false) (hdue : delivery.due ≤ r.clock) :
    ∃ r', r.move? setup (.deliver n) = some r' ∧ r'.underWay < r.underWay := by
  refine ⟨{ r with
      deliveries := r.deliveries.set n { delivery with accepted := some (sink.accepts n) }
      arrived := r.arrived ++ [n] }, ?_, ?_⟩
  · simp only [move?, hsink, hd, hdone, hdue, Bool.not_false, decide_true, Bool.and_self, if_true]
  · refine countP_set_lt (p := fun delivery => !delivery.isDone) hd ?_ ?_
    · rw [hdone]
      rfl
    · rfl

/-- Every submission is done in the end. -/
theorem waits_delivered (r : Run) (hsink : setup.sink = none → r.deliveries = []) :
    ∃ r', Waits setup r r' ∧ ∀ n, r'.isUnderWay n = false := by
  induction hwork : r.underWay using Nat.strongRecOn generalizing r with
  | ind work ih =>
    subst hwork
    by_cases hway : ∃ n, r.isUnderWay n = true
    · obtain ⟨n, hn⟩ := hway
      obtain ⟨delivery, hd, hdone⟩ := isUnderWay_iff.mp hn
      have found : setup.sink ≠ none := fun hnone => by
        rw [hsink hnone] at hd
        cases hd
      obtain ⟨sink, hsome⟩ := Option.ne_none_iff_exists'.mp found
      have late := waits_time setup r delivery.due
      obtain ⟨r₁, hmove, fewer⟩ := move?_deliver_of_due (r := { r with clock := r.clock + delivery.due }) hsome hd hdone
        (Nat.le_add_left _ _)
      obtain ⟨r', hwaits, hnone⟩ := ih _ fewer r₁ (fun hnone => absurd hnone found) rfl
      exact ⟨r', (late.step (.deliver n) rfl hmove).trans hwaits, hnone⟩
    · exact ⟨r, Waits.refl, fun n => eq_false_of_ne_true fun hn => hway ⟨n, hn⟩⟩

end

/-! ### No call is stuck -/

section
variable [Grammars] {setup : Setup} {store : Entries Answers} {given : Answers} {log : List Passage} {r r' : Run}
  {n : Nat}
  {stage : Stage}

theorem Accounted.deliveries_eq_nil (h : Accounted setup log r) (hsink : setup.sink = none) : r.deliveries = [] := by
  have none_to_submit : toSubmit setup log = [] := by
    refine List.filterMap_eq_nil_iff.mpr fun p _ => Option.filter_eq_none_iff.mpr fun parting _ hanswered => ?_
    rw [hsink] at hanswered
    cases hanswered
  have submitted := h.submitted
  rw [none_to_submit, List.forall₂_nil_left_iff, List.map_eq_nil_iff] at submitted
  exact submitted

/-- A call that is not done need not wait at its stage for ever. -/
theorem Reaches.comes_ready (h : Reaches setup (start setup store given) log r) (hdone : ∀ t, stage ≠ .done t) :
    ∃ r₁, Waits setup r r₁ ∧ r₁.IsReady stage := by
  cases stage with
  | record | depart | back | note | arrive | settle => exact ⟨r, Waits.refl, trivial⟩
  | await ns answers redirect =>
    obtain ⟨r₁, hwaits, hnone⟩ := waits_delivered r h.accounted.deliveries_eq_nil
    exact ⟨r₁, hwaits, fun n _ => hnone n⟩
  | tell answers redirect due => exact ⟨_, waits_time setup r due, Nat.le_add_left due r.clock⟩
  | clear g redirect =>
    obtain ⟨r₁, hwaits, hidle⟩ := waits_rest setup r
    refine ⟨r₁, hwaits, ?_⟩
    rw [IsReady, Cache.inLine, (List.append_eq_nil_iff.mp hidle).1, List.any_nil]
  | done t => exact absurd rfl (hdone t)

/-- Whatever has happened so far, every call that was made can come to its end. -/
theorem Reaches.completes (h : Reaches setup (start setup store given) log r) (hn : r.calls[n]? = some stage) :
    ∃ t r', Completes setup n r t r' := by
  induction hrank : stage.rank using Nat.strongRecOn generalizing log r stage with
  | ind rank ih =>
    subst hrank
    by_cases hdone : ∃ t, stage = .done t
    · obtain ⟨t, rfl⟩ := hdone
      exact ⟨t, r, .done hn⟩
    · obtain ⟨r₁, hwaits, hready⟩ := h.comes_ready fun t ht => hdone ⟨t, ht⟩
      obtain ⟨r₂, stage', acts⟩ := hready.acts setup
      have hn₁ : r₁.calls[n]? = some stage := by rw [hwaits.still.calls, hn]
      have hmove := acts.move? hn₁
      have advances := acts.advances hn₁
      obtain ⟨t, r', hcompletes⟩ := ih _ advances.effect.rank_lt ((h.trans hwaits.reaches).step _ hmove)
        advances.getElem?_self rfl
      exact ⟨t, r', hwaits.completes (.step (.advance n) (beq_self_eq_true n) hmove hcompletes)⟩

/-- The last one of some calls that were made, and the calls before it. -/
theorem Plays.of_concat {r₀ : Run} {played : List Played} {calls : List Call} {c : Call}
    (h : Plays setup r₀ played r') (hcalls : played.map Played.call = calls ++ [c]) :
    ∃ before r r₁ t, Plays setup r₀ before r ∧ before.map Played.call = calls ∧ played = before ++ [⟨c, r, t, r'⟩] ∧
      r.move? setup (.call c) = some r₁ ∧ Completes setup r.calls.length r₁ t r' := by
  cases h with
  | nil => exact absurd hcalls.symm (List.concat_ne_nil _ _)
  | @concat before c' t r r₁ _ hbefore hcall hdone =>
    rw [List.map_append] at hcalls
    obtain ⟨hfirst, hlast⟩ := List.append_inj' hcalls rfl
    obtain rfl : c' = c := (List.cons.inj hlast).1
    exact ⟨before, r, r₁, t, hbefore, hfirst, rfl, hcall, hdone⟩

theorem Plays.reaches {played : List Played} (h : Plays setup r played r') : ∃ log, Reaches setup r log r' := by
  induction h with
  | nil => exact ⟨[], Reaches.refl⟩
  | concat _ hcall hdone ih =>
    obtain ⟨log, hlog⟩ := ih
    obtain ⟨log', hlog'⟩ := hdone.reaches
    exact ⟨_, (hlog.step _ hcall).trans hlog'⟩

/-- Whatever has happened so far, any calls can be made from there one after the other. -/
theorem Reaches.plays_exists (h : Reaches setup (start setup store given) log r) (calls : List Call) :
    ∃ played r', Plays setup r played r' ∧ played.map Played.call = calls := by
  induction calls using List.reverseRecOn with
  | nil => exact ⟨[], r, .nil, rfl⟩
  | append_singleton calls c ih =>
    obtain ⟨played, r₁, hplays, hcalls⟩ := ih
    obtain ⟨log', hlog⟩ := hplays.reaches
    obtain ⟨t, r', hcompletes⟩ := ((h.trans hlog).step (.call c) rfl).completes List.getElem?_concat_length
    exact ⟨_, r', hplays.concat rfl hcompletes, by rw [List.map_append, hcalls]; rfl⟩

/-- Any calls can be made one after the other. -/
theorem plays_exists (setup : Setup) (store : Entries Answers) (given : Answers) (calls : List Call) :
    ∃ played r, Plays setup (start setup store given) played r ∧ played.map Played.call = calls :=
  Reaches.refl.plays_exists calls

end

end Questionnaire.Run
