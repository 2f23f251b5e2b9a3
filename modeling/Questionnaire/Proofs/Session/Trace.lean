import Questionnaire.Proofs.Session.Collaborators

/-!
# What a call leaves on record

On the way of a call the observer is told of things, from inside of which it may call back, and answers are handed to
the sink. What is told and handed is settled from any stage of the call by the session and by what is on record before:
`Stage.trace` says it, and every section keeps to it, however long anyone takes. The count of arrived submissions in
the report of the end is part of this, since by then every submission has arrived.
-/

namespace Questionnaire

/-- What a submission hands on, whenever it is made. -/
structure Submission.Content where
  documentId : String
  sessionId : SessionId
  answers : List Submission.Answer

def Submission.content (s : Submission) : Submission.Content := ⟨s.documentId, s.sessionId, s.answers⟩

/-- What is on record of a run: what the observer was told, and what was handed to the sink. -/
structure Trace where
  events : List Event
  handed : List Submission.Content

namespace Trace

def tell (e : Event) (τ : Trace) : Trace := { τ with events := τ.events ++ [e] }

/-- The calls from inside the observer, each answered by its first section. -/
def reenter [Grammars] (setup : Setup) (s : Session) (τ : Trace) : Trace :=
  match setup.observer.inside τ.events with
  | [] => τ
  | calls => τ.tell (.reentered ⟨s.phase, (s.attemptAll setup.document calls).2⟩)

def complete [Grammars] (setup : Setup) (c : Completion) (s : Session) (τ : Trace) : Trace :=
  let τ := (τ.tell (.completed c)).reenter setup s
  if setup.sink.isSome && !c.answers.isEmpty then
    { τ with handed := τ.handed ++ [(setup.submission c 0).content] }
  else τ

/-- The report of the end, when all that was handed to the sink has arrived. -/
def finish (answers : Answers) (redirect : Option String) (τ : Trace) : Trace :=
  τ.tell (.finished answers redirect τ.handed.length)

def arrive (answers : Answers) (τ : Trace) : Destination → Trace
  | .page p => τ.tell (.changed p)
  | .elsewhere url => τ.finish answers (some url)
  | .finish => τ.finish answers none

/-- What a call leaves that is to leave the page. -/
def leave [Grammars] (setup : Setup) (submitted : Answers) (s : Session) (τ : Trace) : Trace :=
  match s.depart setup.document submitted with
  | (s, .departed ⟨completion, destination⟩) =>
    (completion.elim τ fun c => τ.complete setup c s).arrive s.answers destination
  | _ => τ

end Trace

/-- What a call leaves on record from a stage on, while no other call goes on. -/
def Stage.trace [Grammars] (setup : Setup) (s : Session) (τ : Trace) : Stage → Trace
  | record id v =>
    match s.record setup.document id v with
    | some (s, true) => τ.leave setup ∅ s
    | _ => τ
  | depart submitted => τ.leave setup submitted s
  | back =>
    match (s.back setup.document).2 with
    | .moved page => τ.tell (.changed page)
    | _ => τ
  | note _ destination | arrive destination => τ.arrive s.answers destination
  | settle redirect => τ.finish s.answers redirect
  | await _ answers redirect | tell answers redirect _ => τ.finish answers redirect
  | clear _ _ | done _ => τ

theorem Stage.trace_of_refusal? [Grammars] {setup : Setup} {s : Session} {τ : Trace} {stage : Stage}
    {t : Option Transition} (ha : s.phase.isActive = false) (hr : stage.refusal? = some t) :
    stage.trace setup s τ = τ := by
  cases stage with
  | record => rw [trace, Session.record_of_not_active ha]
  | depart => rw [trace, Trace.leave, Session.depart_of_not_active ha]
  | back => rw [trace, Session.back_of_not_active ha]
  | note | arrive | settle | await | tell | clear | done => cases hr

theorem Destination.trace_noted [Grammars] (setup : Setup) (s : Session) (τ : Trace) (destination : Destination)
    (handle : Option Nat) : (destination.noted handle).trace setup s τ = τ.arrive s.answers destination := by
  cases handle <;> rfl

namespace Run

def trace (r : Run) : Trace := ⟨r.events, r.deliveries.map fun d => d.submission.content⟩

section
variable [Grammars] {setup : Setup} {r r' : Run} {n : Nat} {m : Move} {stage stage' : Stage}

theorem trace_reenter (setup : Setup) (r : Run) : (r.reenter setup).trace = r.trace.reenter setup r.session := by
  have hevents : r.trace.events = r.events := rfl
  unfold reenter Trace.reenter
  rw [hevents]
  cases setup.observer.inside r.events <;> rfl

theorem trace_complete (setup : Setup) (c : Completion) (r : Run) :
    (r.complete setup c).1.trace = r.trace.complete setup c r.session := by
  have htold : ((r.tell (.completed c)).reenter setup).trace =
      (r.trace.tell (.completed c)).reenter setup r.session := trace_reenter setup (r.tell (.completed c))
  unfold complete Trace.complete
  rw [← htold]
  cases hsink : setup.sink with
  | none => rfl
  | some sink =>
    cases hempty : c.answers.isEmpty with
    | true => rfl
    | false =>
      simp only [Option.isSome_some, Bool.not_false, Bool.and_self, if_true, Bool.false_eq_true, if_false, trace,
        List.map_append]
      rfl

theorem arrived_complete (setup : Setup) (c : Completion) (r : Run) :
    (r.complete setup c).1.arrived = r.arrived ∧
      (r.complete setup c).1.deliveries.countP Delivery.isDone = r.deliveries.countP Delivery.isDone := by
  have hr : ((r.tell (.completed c)).reenter setup).arrived = r.arrived ∧
      ((r.tell (.completed c)).reenter setup).deliveries = r.deliveries := by
    unfold reenter
    split <;> exact ⟨rfl, rfl⟩
  unfold complete
  generalize (r.tell (.completed c)).reenter setup = r₁ at hr
  obtain ⟨harrived, hdeliveries⟩ := hr
  cases hsink : setup.sink with
  | none => exact ⟨harrived, by rw [hdeliveries]⟩
  | some sink =>
    cases hempty : c.answers.isEmpty with
    | true => exact ⟨harrived, by simp only [if_true, hdeliveries]⟩
    | false =>
      refine ⟨harrived, ?_⟩
      simp only [Bool.false_eq_true, if_false, hdeliveries, List.countP_append, List.countP_singleton]
      rfl

/-! ### A section keeps to the record of its call -/

/-- The section leaves to the sink what has arrived there, makes at most one submission, which is under way, and
keeps to what its call leaves on record; when it reports the end, all submissions are to have arrived. -/
structure Records (setup : Setup) (r : Run) (stage : Stage) (r' : Run) (stage' : Stage) : Prop where
  arrived : r'.arrived = r.arrived
  done : r'.deliveries.countP Delivery.isDone = r.deliveries.countP Delivery.isDone
  trace : (stage.ending?.isSome → r.arrived.length = r.deliveries.length) →
    stage.trace setup r.session r.trace = stage'.trace setup r'.session r'.trace

theorem Acts.records (h : Acts setup r stage r' stage') : Records setup r stage r' stage' := by
  cases h with
  | refused ha hr => exact ⟨rfl, rfl, fun _ => Stage.trace_of_refusal? ha hr⟩
  | @recorded i id v hi =>
    refine ⟨rfl, rfl, fun _ => ?_⟩
    rw [Stage.trace, Session.record_of_active hi]
    cases r.session.advancesOn setup.document i id <;> rfl
  | rejected hi hv =>
    refine ⟨rfl, rfl, fun _ => ?_⟩
    rw [Stage.trace, Trace.leave, Session.depart_of_invalid hi hv]
    rfl
  | vacated hi hv hp =>
    refine ⟨rfl, rfl, fun _ => ?_⟩
    rw [Stage.trace, Trace.leave, Session.depart_of_valid hi hv, hp]
    rfl
  | @departed i submitted page hi hv hp =>
    obtain ⟨harrived, hdone⟩ := arrived_complete setup (r.session.completion setup.document i submitted page)
      { r with session := r.session.left setup.document i submitted }
    refine ⟨harrived, hdone, fun _ => ?_⟩
    rw [Stage.trace, Trace.leave, Session.depart_of_valid hi hv, hp, Destination.trace_noted, leave_session, leave,
      trace_complete]
    rfl
  | stayed _ hh =>
    refine ⟨rfl, rfl, fun _ => ?_⟩
    rw [Stage.trace, Session.back_of_empty hh]
    rfl
  | returned hi hh hp =>
    refine ⟨rfl, rfl, fun _ => ?_⟩
    rw [Stage.trace, Session.back_of_snapshot hi hh, hp]
    rfl
  | strayed hi hh hp =>
    refine ⟨rfl, rfl, fun _ => ?_⟩
    rw [Stage.trace, Session.back_of_snapshot hi hh, hp]
    rfl
  | @told answers redirect =>
    refine ⟨rfl, rfl, fun hall => ?_⟩
    have hcount : r.trace.handed.length = r.arrived.length := by
      rw [hall rfl, trace, List.length_map]
    rw [Stage.trace, Trace.finish, hcount]
    rfl
  | noted | reached | redirected | finished | settled | awaited | cleared => exact ⟨rfl, rfl, fun _ => rfl⟩

theorem move?_records (h : r.move? setup (.advance n) = some r') (hn : r.calls[n]? = some stage) :
    ∃ stage', r'.calls[n]? = some stage' ∧ Records setup r stage r' stage' := by
  obtain ⟨r₁, stage', acts, rfl⟩ := Acts.of_move? h hn
  have records := acts.records
  exact ⟨stage', (acts.advances hn).getElem?_self, records.arrived, records.done, records.trace⟩

end

/-! ### What has arrived -/

section
variable [Grammars] {setup : Setup} {store : Entries Answers} {given : Answers} {log : List Passage} {r r' : Run}
  {n : Nat}
  {stage : Stage} {t : Option Transition}

/-- As many submissions have arrived as are done. -/
theorem Reaches.arrived_eq (h : Reaches setup (start setup store given) log r) :
    r.arrived.length = r.deliveries.countP Delivery.isDone := by
  induction h with
  | refl => rfl
  | @step log r r' m _ hm ih =>
    cases m with
    | call | tick =>
      obtain rfl := Option.some.inj hm
      exact ih
    | cache =>
      obtain ⟨c, -, rfl⟩ := Option.map_eq_some_iff.mp hm
      exact ih
    | advance k =>
      obtain ⟨stage, _, advances⟩ := move?_advance hm
      obtain ⟨_, -, records⟩ := move?_records hm advances.found
      rw [records.arrived, records.done, ih]
    | deliver k =>
      simp only [move?] at hm
      split at hm
      · rename_i sink delivery _ hk
        split at hm
        · rename_i hdue
          obtain rfl := Option.some.inj hm
          obtain ⟨hlt, rfl⟩ := List.getElem?_eq_some_iff.mp hk
          have hdone : r.deliveries[k].isDone = false := by
            rw [Bool.and_eq_true, Bool.not_eq_true'] at hdue
            exact hdue.1
          rw [List.length_append, ih, List.countP_set hlt, hdone]
          rfl
        · cases hm
      · cases hm

/-- When a call is to report the end, every submission has arrived. -/
theorem Reaches.arrived_of_ending (h : Reaches setup (start setup store given) log r) (hn : r.calls[n]? = some stage)
    (hending : stage.ending?.isSome) : r.arrived.length = r.deliveries.length := by
  obtain ⟨report, hreport⟩ := Option.isSome_iff_exists.mp hending
  have hmem : report ∈ r.reports :=
    List.mem_append_left _ (List.mem_filterMap.mpr ⟨stage, List.mem_of_getElem? hn, hreport⟩)
  rw [h.arrived_eq, List.countP_eq_length]
  exact fun delivery hdelivery => h.accounted.isDone hmem hdelivery

theorem trace_of_isAmbient {m : Move} (hm : m.isAmbient = true) (h : r.move? setup m = some r') :
    r'.trace = r.trace := by
  have hevents := (move?_still hm h).events
  have hdeliveries : r'.deliveries.map Delivery.submission = r.deliveries.map Delivery.submission := by
    cases m with
    | call | advance => cases hm
    | deliver => exact (move?_deliver h).2.1
    | cache =>
      obtain ⟨c, -, rfl⟩ := Option.map_eq_some_iff.mp h
      rfl
    | tick =>
      obtain rfl := Option.some.inj h
      rfl
  have hhanded := congrArg (List.map Submission.content) hdeliveries
  rw [List.map_map, List.map_map] at hhanded
  rw [trace, hevents]
  exact congrArg (Trace.mk r.events) hhanded

theorem Waits.trace (h : Waits setup r r') : r'.trace = r.trace := by
  induction h with
  | refl => rfl
  | step m _ hm hmove ih => rw [trace_of_isAmbient hm hmove, ih]

/-- What is on record after a call is settled by its stage, the session and what was on record before. -/
theorem Completes.trace (h : Completes setup n r t r') (hr : Reaches setup (start setup store given) log r)
    (hn : r.calls[n]? = some stage) : r'.trace = stage.trace setup r.session r.trace := by
  induction h generalizing log stage with
  | done hdone =>
    rw [hn] at hdone
    obtain rfl := Option.some.inj hdone
    rfl
  | @step r r₁ r' t m hfor hm _ ih =>
    have hr₁ := hr.step m hm
    rcases Move.isAmbient_or_advance hfor with ham | rfl
    · have still := move?_still ham hm
      rw [ih hr₁ (by rw [still.calls, hn]), still.session, trace_of_isAmbient ham hm]
    · obtain ⟨stage', hn', records⟩ := move?_records hm hn
      rw [ih hr₁ hn', records.trace (hr.arrived_of_ending hn)]

end

end Run

end Questionnaire
