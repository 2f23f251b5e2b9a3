import Questionnaire.Grammars.Builtin
import Questionnaire.Proofs.Session.Progress

/-!
# Collaborators do not matter to a session

The sink, the observer, the window and the store of a session are told and asked things on the way of a call, but what
they do and how long they take does not come back to it. `Stage.conclude` says what comes of a call from any of its
stages, by the document and the session alone; every section keeps to that, whatever the session runs with. So two
sessions over the same document that start alike are seen to be alike after every call.
-/

namespace Questionnaire

/-- The observer is told of a page that is completed, or of one that is come to. -/
def Event.isProgress : Event → Bool
  | completed _ | changed _ => true
  | reentered _ | finished _ _ _ => false

namespace Transition

/-- What the observer is told before a call has this answer. -/
def news : Transition → List Event
  | moved p => [.changed p]
  | _ => []

end Transition

/-- The answer of a call that arrives there. -/
def Destination.answer : Destination → Transition
  | page p => .moved p
  | elsewhere url => .ended (some url)
  | finish => .ended none

/-- What comes of a call: the session but for what is pending, the answer, and what the observer is told of the
progress. -/
structure Conclusion where
  session : Session
  answer : Option Transition
  news : List Event

/-- The conclusion with something that the observer is told first. -/
def Conclusion.after (news : List Event) (c : Conclusion) : Conclusion := { c with news := news ++ c.news }

namespace Session

/-- What comes of a call that is on its way. -/
def arriving (destination : Destination) (s : Session) : Conclusion :=
  ⟨(s.arrive destination).core, some destination.answer, destination.answer.news⟩

/-- What comes of a call that is to leave the page. -/
def leaving [Grammars] (d : Document) (submitted : Answers) (s : Session) : Conclusion :=
  match s.depart d submitted with
  | (s, .departed departure) =>
    (s.arriving departure.destination).after (departure.completion.toList.map .completed)
  | (s, decision) => ⟨s.core, decision.result?, []⟩

end Session

/-- What comes of a call at a stage while no other call goes on. -/
def Stage.conclude [Grammars] (d : Document) (s : Session) : Stage → Conclusion
  | record id v =>
    match s.record d id v with
    | none => ⟨s.core, none, []⟩
    | some (s, advances) => if advances then s.leaving d ∅ else ⟨s.core, none, []⟩
  | depart submitted => s.leaving d submitted
  | back => ⟨(s.back d).1.core, some (s.back d).2, (s.back d).2.news⟩
  | note _ destination | arrive destination => s.arriving destination
  | settle redirect | await _ _ redirect | tell _ redirect _ | clear _ redirect =>
    ⟨s.core, some (.ended redirect), []⟩
  | done t => ⟨s.core, t, []⟩

/-! ### What is pending decides nothing -/

namespace Session
variable {d : Document} {s s' : Session}

theorem record_core (d : Document) (id : String) (v : Json) (s : Session) :
    s.core.record d id v = (s.record d id v).map fun recorded => (recorded.1.core, recorded.2) := by
  cases ha : s.phase.isActive with
  | false => rw [record_of_not_active ha, record_of_not_active (s := s.core) ha]; rfl
  | true =>
    obtain ⟨i, hi⟩ := Phase.isActive_iff.mp ha
    rw [record_of_active hi, record_of_active (s := s.core) hi]
    rfl

theorem depart_core [Grammars] (d : Document) (submitted : Answers) (s : Session) :
    s.core.depart d submitted = ((s.depart d submitted).1.core, (s.depart d submitted).2) := by
  cases ha : s.phase.isActive with
  | false => rw [depart_of_not_active ha, depart_of_not_active (s := s.core) ha]
  | true =>
    obtain ⟨i, hi⟩ := Phase.isActive_iff.mp ha
    have hi' : s.core.phase = .active i := hi
    cases hv : validate (s.visible d i) (s.answers.extend submitted) with
    | some complaints =>
      rw [depart_of_invalid hi hv, depart_of_invalid hi' hv]
      rfl
    | none =>
      rw [depart_of_valid hi hv, depart_of_valid hi' hv]
      rfl

theorem back_core (d : Document) (s : Session) : s.core.back d = ((s.back d).1.core, (s.back d).2) := by
  cases ha : s.phase.isActive with
  | false => rw [back_of_not_active ha, back_of_not_active (s := s.core) ha]
  | true =>
    obtain ⟨i, hi⟩ := Phase.isActive_iff.mp ha
    cases hh : s.history with
    | nil => rw [back_of_empty hh, back_of_empty (s := s.core) hh]
    | cons snapshot rest =>
      rw [back_of_snapshot hi hh, back_of_snapshot (s := s.core) hi hh]
      rfl

theorem arriving_core (destination : Destination)
    (s : Session) : s.core.arriving destination = s.arriving destination := by
  rw [arriving, arriving, core_arrive (s := s)]

theorem leaving_core [Grammars] (d : Document) (submitted : Answers) (s : Session) :
    s.core.leaving d submitted = s.leaving d submitted := by
  rw [leaving, depart_core, leaving]
  obtain ⟨s', decision⟩ := s.depart d submitted
  cases decision with
  | ignored | invalid => rfl
  | departed departure => simp only [arriving_core]

end Session

theorem Stage.conclude_core [Grammars] (d : Document) (s : Session)
    (stage : Stage) : stage.conclude d s.core = stage.conclude d s := by
  cases stage with
  | record id v =>
    rw [conclude, Session.record_core, conclude]
    cases s.record d id v with
    | none => rfl
    | some recorded =>
      obtain ⟨s', advances⟩ := recorded
      cases advances with
      | true => exact Session.leaving_core d ∅ s'
      | false => rfl
  | depart submitted => exact Session.leaving_core d submitted s
  | back =>
    rw [conclude, Session.back_core, conclude]
    rfl
  | note _ destination | arrive destination => exact Session.arriving_core destination s
  | settle | await | tell | clear | done => rfl

theorem Stage.conclude_of_refusal? [Grammars] {d : Document} {s : Session} {stage : Stage} {t : Option Transition}
    (ha : s.phase.isActive = false) (hr : stage.refusal? = some t) :
    stage.conclude d s = (Stage.done t).conclude d s := by
  cases stage with
  | record =>
    obtain rfl := Option.some.inj hr
    rw [conclude, Session.record_of_not_active ha]
    rfl
  | depart =>
    obtain rfl := Option.some.inj hr
    rw [conclude, Session.leaving, Session.depart_of_not_active ha]
    rfl
  | back =>
    obtain rfl := Option.some.inj hr
    rw [conclude, Session.back_of_not_active ha]
    rfl
  | note | arrive | settle | await | tell | clear | done => cases hr

theorem Destination.conclude_noted [Grammars] (d : Document) (s : Session) (destination : Destination)
    (handle : Option Nat) : (destination.noted handle).conclude d s = s.arriving destination := by
  cases handle <;> rfl

theorem Stage.conclude_congr [Grammars] {s s' : Session} (h : s'.core = s.core) (d : Document) (stage : Stage) :
    stage.conclude d s' = stage.conclude d s := by
  rw [← conclude_core, h, conclude_core]

namespace Run

/-- What the observer has been told of the progress. -/
def progress (r : Run) : List Event := r.events.filter Event.isProgress

/-- What can be seen of a session once a call has been answered. -/
structure Sight where
  answer : Option Transition
  phase : Phase
  index : Nat
  answers : Answers
  vars : Variables
  hidden : List String
  view : Option View
  /-- What the observer has been told of the progress, from the beginning. -/
  progress : List Event

def Sight.of (d : Document) (t : Option Transition) (s : Session) (progress : List Event) : Sight :=
  ⟨t, s.phase, s.index, s.answers, s.vars, s.hidden, s.view? d, progress⟩

def Played.sight (d : Document) (p : Played) : Sight := Sight.of d p.answer p.after.session p.after.progress

/-- What can be seen of a session does not show what is pending. -/
theorem Sight.of_core (d : Document) (t : Option Transition) (s : Session) (progress : List Event) :
    Sight.of d t s.core progress = Sight.of d t s progress := rfl

/-! ### A section keeps to the conclusion of its call -/

section
variable [Grammars] {setup : Setup} {r r' : Run} {n : Nat} {stage stage' : Stage}

omit [Grammars] in
theorem progress_tell (e : Event) (r : Run) : (r.tell e).progress = r.progress ++ [e].filter Event.isProgress :=
  List.filter_append _ _

theorem progress_reenter (setup : Setup) (r : Run) : (r.reenter setup).progress = r.progress := by
  unfold reenter
  split
  · rfl
  · rw [progress_tell]
    exact List.append_nil _

theorem progress_complete (setup : Setup) (c : Completion) (r : Run) :
    (r.complete setup c).1.progress = r.progress ++ [.completed c] := by
  have hr : ((r.tell (.completed c)).reenter setup).progress = r.progress ++ [.completed c] := by
    rw [progress_reenter, progress_tell]
    rfl
  unfold complete
  split
  · exact hr
  · split
    · exact hr
    · exact hr

/-- The section goes on with what comes of its call, some of which it has told the observer. -/
def Continues (d : Document) (r : Run) (stage : Stage) (r' : Run) (stage' : Stage) : Prop :=
  ∃ news, r'.progress = r.progress ++ news ∧ stage.conclude d r.session = (stage'.conclude d r'.session).after news

theorem Continues.of_quiet (hp : r'.progress = r.progress)
    (hc : stage.conclude setup.document r.session = stage'.conclude setup.document r'.session) :
    Continues setup.document r stage r' stage' :=
  ⟨[], by rw [hp, List.append_nil], hc⟩

/-- Whatever a session runs with, a section keeps to what comes of its call. -/
theorem Acts.continues (h : Acts setup r stage r' stage') : Continues setup.document r stage r' stage' := by
  cases h with
  | refused ha hr => exact .of_quiet rfl (Stage.conclude_of_refusal? ha hr)
  | @recorded i id v hi =>
    refine .of_quiet rfl ?_
    rw [Stage.conclude, Session.record_of_active hi]
    cases r.session.advancesOn setup.document i id <;> rfl
  | rejected hi hv =>
    refine .of_quiet rfl ?_
    rw [Stage.conclude, Session.leaving, Session.depart_of_invalid hi hv]
    rfl
  | vacated hi hv hp =>
    refine .of_quiet rfl ?_
    rw [Stage.conclude, Session.leaving, Session.depart_of_valid hi hv, hp]
    rfl
  | @departed i submitted page hi hv hp =>
    refine ⟨[.completed (r.session.completion setup.document i submitted page)], progress_complete setup _ _, ?_⟩
    rw [Stage.conclude, Session.leaving, Session.depart_of_valid hi hv, hp, Destination.conclude_noted, leave_session]
    rfl
  | stayed _ hh =>
    refine .of_quiet rfl ?_
    rw [Stage.conclude, Session.back_of_empty hh]
    rfl
  | returned hi hh hp =>
    refine ⟨_, progress_tell _ _, ?_⟩
    rw [Stage.conclude, Session.back_of_snapshot hi hh, hp]
    rfl
  | strayed hi hh hp =>
    refine .of_quiet rfl ?_
    rw [Stage.conclude, Session.back_of_snapshot hi hh, hp]
    rfl
  | @noted n destination =>
    have same : { r.session with pending := r.session.pending.filter r.isUnderWay ++ [n] }.core = r.session.core := rfl
    exact .of_quiet rfl (Stage.conclude_congr same setup.document (.arrive destination)).symm
  | reached => exact ⟨_, progress_tell _ _, rfl⟩
  | told => exact .of_quiet ((progress_tell _ r).trans (List.append_nil _)) rfl
  | redirected | finished | settled | awaited | cleared => exact .of_quiet rfl rfl

end

/-! ### A call comes to its conclusion -/

section
variable [Grammars] {setup setup' : Setup} {store store' : Entries Answers} {given : Answers} {r r' : Run} {n : Nat}
  {stage : Stage} {t : Option Transition}

omit [Grammars] in
theorem Still.progress (h : Still r r') : r'.progress = r.progress := by
  rw [Run.progress, h.events, Run.progress]

theorem Completes.concludes (h : Completes setup n r t r') (hn : r.calls[n]? = some stage) :
    ∃ news, r'.progress = r.progress ++ news ∧ stage.conclude setup.document r.session = ⟨r'.session.core, t, news⟩ := by
  induction h generalizing stage with
  | done hdone =>
    rw [hn] at hdone
    obtain rfl := Option.some.inj hdone
    exact ⟨[], (List.append_nil _).symm, rfl⟩
  | @step r r₁ r' t m hfor hm _ ih =>
    rcases Move.isAmbient_or_advance hfor with ham | rfl
    · have still := move?_still ham hm
      obtain ⟨news, hprogress, hconclude⟩ := ih (by rw [still.calls, hn])
      rw [still.session] at hconclude
      exact ⟨news, by rw [hprogress, still.progress], hconclude⟩
    · obtain ⟨r₂, stage', acts, rfl⟩ := Acts.of_move? hm hn
      obtain ⟨told, htold, hcontinues⟩ := acts.continues
      obtain ⟨news, hprogress, hconclude⟩ := ih (acts.advances hn).getElem?_self
      refine ⟨told ++ news, ?_, ?_⟩
      · rw [hprogress, ← List.append_assoc]
        exact congrArg (· ++ news) htold
      · rw [hcontinues, hconclude]
        rfl

theorem Completes.concludes_call {c : Call} {r₁ : Run} (h : Completes setup r.calls.length r₁ t r')
    (hcall : r.move? setup (.call c) = some r₁) :
    ∃ news, r'.progress = r.progress ++ news ∧
      c.stage.conclude setup.document r.session = ⟨r'.session.core, t, news⟩ := by
  obtain rfl := Option.some.inj hcall
  exact h.concludes List.getElem?_concat_length

/-! ### Two runs -/

/-- The sessions of the runs differ at most in what is pending, and their observers have been told of the same
progress. -/
structure Alike (r r' : Run) : Prop where
  core : r'.session.core = r.session.core
  progress : r'.progress = r.progress

omit [Grammars] in
theorem sight_of_alike (d : Document) {p p' : Played} (h : Alike p.after p'.after) (ht : p'.answer = p.answer) :
    p'.sight d = p.sight d := by
  rw [Played.sight, ← Sight.of_core, h.core, Sight.of_core, h.progress, ht, Played.sight]

/-- The same call brings runs that are alike to the same answer, and they are alike after it. -/
theorem Completes.alike {r₁ r₁' : Run} {t' : Option Transition} (hd : setup'.document = setup.document)
    (h : Completes setup n r t r₁) (hn : r.calls[n]? = some stage) {n' : Nat} (h' : Completes setup' n' r' t' r₁')
    (hn' : r'.calls[n']? = some stage) (alike : Alike r r') : t' = t ∧ Alike r₁ r₁' := by
  obtain ⟨news, hprogress, hconclude⟩ := h.concludes hn
  obtain ⟨news', hprogress', hconclude'⟩ := h'.concludes hn'
  rw [hd, Stage.conclude_congr alike.core, hconclude] at hconclude'
  obtain ⟨hcore, rfl, rfl⟩ := Conclusion.mk.inj hconclude'
  exact ⟨rfl, hcore.symm, by rw [hprogress', hprogress, alike.progress]⟩

theorem Plays.eq_of_nil {r₀ : Run} (h : Plays setup r₀ [] r) : r = r₀ := by
  generalize hplayed : [] = played at h
  cases h with
  | nil => rfl
  | concat => exact absurd hplayed.symm (List.concat_ne_nil _ _)

theorem Plays.alike {r₀ r₀' : Run} {played played' : List Played} (hd : setup'.document = setup.document)
    (h : Plays setup r₀ played r) (h' : Plays setup' r₀' played' r')
    (hcalls : played'.map Played.call = played.map Played.call) (alike : Alike r₀ r₀') :
    played'.map (Played.sight setup.document) = played.map (Played.sight setup.document) ∧ Alike r r' := by
  induction h generalizing played' r' with
  | nil =>
    rw [List.map_nil, List.map_eq_nil_iff] at hcalls
    subst hcalls
    obtain rfl := h'.eq_of_nil
    exact ⟨rfl, alike⟩
  | @concat played c t r r₁ r₂ _ hcall hcompletes ih =>
    rw [List.map_append, List.map_singleton] at hcalls
    obtain ⟨played', r', r₁', t', hplays', hbefore, rfl, hcall', hcompletes'⟩ := h'.of_concat hcalls
    obtain ⟨hsights, halike⟩ := ih hplays' hbefore
    obtain rfl := Option.some.inj hcall
    obtain rfl := Option.some.inj hcall'
    obtain ⟨rfl, after⟩ := hcompletes.alike hd List.getElem?_concat_length hcompletes' List.getElem?_concat_length
      ⟨halike.core, halike.progress⟩
    refine ⟨?_, after⟩
    rw [List.map_append, List.map_append, hsights]
    exact congrArg (fun s => played.map (Played.sight setup.document) ++ [s]) (sight_of_alike setup.document after rfl)

/-- Take two sessions over the same document that find the same answers cached and are given the same ones, whatever
else they run with: their sinks, observers, windows and stores. Calls can be made to each of them one after the other,
and every call is answered. After the same calls, each one made when the one before has been answered, both sessions have
been seen to be alike after each of them: the answer, the phase, the page, the answers, the variables, the hidden
blocks, the view, and the pages that the observer was told to be completed or come to. -/
theorem collaborators_decide_nothing (hd : setup'.document = setup.document)
    (hload : ({ store := store' } : Cache).load setup'.conduct setup.document.cacheKey =
      ({ store := store } : Cache).load setup.conduct setup.document.cacheKey) :
    (∀ calls, (∃ played r, Plays setup (start setup store given) played r ∧ played.map Played.call = calls) ∧
      ∃ played' r', Plays setup' (start setup' store' given) played' r' ∧ played'.map Played.call = calls) ∧
    ∀ played r played' r', Plays setup (start setup store given) played r →
      Plays setup' (start setup' store' given) played' r' → played'.map Played.call = played.map Played.call →
      played'.map (Played.sight setup.document) = played.map (Played.sight setup.document) := by
  refine ⟨fun calls => ⟨plays_exists setup store given calls, plays_exists setup' store' given calls⟩,
    fun played r played' r' h h' hcalls => (h.alike hd h' hcalls ⟨?_, rfl⟩).1⟩
  simp only [start, hd, hload]

end

/-- A page with a question. -/
def oneQuestion : Document :=
    { id := "survey", pages := [{ id := "first", blocks := [{ id := "question", kind := .textInput }] }] }

/-- Nobody takes part. -/
def alone : Setup where
  document := oneQuestion
  window := 0

/-- A sink that rejects late, an observer that calls from inside and fails in the end, and a store that takes its time
and fails. -/
def crowded : Setup where
  document := oneQuestion
  sink := some { time := fun _ => 3, accepts := fun _ => false }
  observer := { time := 2, fails := true, inside := fun _ => [.previous, .next ∅] }
  window := 5
  conduct := { time := fun _ => 4, works := fun _ => false }

open scoped Grammars in
/-- Whoever takes part, an answer and the request to go on are seen to do the same. -/
theorem collaborators_decide_nothing_of_crowd : ∃ played r played' r',
    Plays alone (start alone ∅ ∅) played r ∧ Plays crowded (start crowded ∅ ∅) played' r' ∧
    played.map Played.call = [.set "question" (.text "a"), .next ∅] ∧
    played'.map (Played.sight alone.document) = played.map (Played.sight alone.document) := by
  have both := @collaborators_decide_nothing _ alone crowded ∅ ∅ ∅ rfl rfl
  obtain ⟨⟨played, r, h, hcalls⟩, played', r', h', hcalls'⟩ := both.1 [.set "question" (.text "a"), .next ∅]
  exact ⟨played, r, played', r', h, h', hcalls, both.2 played r played' r' h h' (hcalls'.trans hcalls.symm)⟩

end Run

end Questionnaire
