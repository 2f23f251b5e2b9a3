import Questionnaire.Grammars.Builtin
import Questionnaire.Proofs.Session.Collaborators
import Questionnaire.Proofs.Session.Resuming

/-!
# The story that an observer is told

What the observer of a session is told is a story: a page is completed, a page is come to, the session is finished. It
is finished once and nothing is told after that, however the sections of calls are ordered. Calls made one after the other
each tell their part of the story, and `Tells` says which: every page that is completed is the one that was announced
last, and every page that a call has moved to is announced.
-/

namespace Questionnaire

theorem Transition.isEnd_ended (redirect : Option String) : (Transition.ended redirect).isEnd = true := by
  cases redirect <;> rfl

/-- What an observer is told, apart from the answers to its own calls. -/
inductive Told where
  | completed (c : Completion)
  | changed (page : PageRef)
  | finished (answers : Answers) (redirect : Option String)

def Event.told? : Event → Option Told
  | completed c => some (.completed c)
  | changed page => some (.changed page)
  | finished answers redirect _ => some (.finished answers redirect)
  | reentered _ => none

def Told.page? : Told → Option PageRef
  | changed page => some page
  | completed _ | finished _ _ => none

/-- The page that was announced last, the first one if none was. -/
def announced? (d : Document) (story : List Told) : Option PageRef :=
  (story.filterMap Told.page?).getLast?.or ((d.pages[0]?).map (·.ref 0))

/-- The session has that page of the document active. -/
structure Session.IsAt (d : Document) (q : PageRef) (s : Session) : Prop where
  phase : s.phase = .active q.index
  index : s.index = q.index
  page : ∃ page, d.pages[q.index]? = some page ∧ q = page.ref q.index

/-- What a call has told when it comes to this conclusion. -/
def Conclusion.tale (c : Conclusion) : List Told :=
  c.news.filterMap Event.told? ++ c.session.phase.ending?.toList.map (.finished c.session.answers)

theorem Conclusion.tale_of_active {c : Conclusion} {i : Nat} (h : c.session.phase = .active i) :
    c.tale = c.news.filterMap Event.told? := by
  rw [tale, h]
  exact List.append_nil _

namespace Run

def story (r : Run) : List Told := r.events.filterMap Event.told?

/-- The call has left the page that was active, with the answers that are recorded for the blocks seen there. -/
structure Played.Leaves (d : Document) (p : Played) (c : Completion) : Prop where
  shown : p.before.session.IsAt d c.page
  recorded : ∀ id v, c.answers.get? id = some v ↔
    (∃ b ∈ p.before.session.visible d c.page.index, b.id = id) ∧ p.after.session.answers.get? id = some v

/-- What the observer is told while a call is made, by the answer of the call. -/
inductive Tells (d : Document) (p : Played) : List Told → Prop
  | onward {c q} : p.call.isBack = false → p.answer = some (.moved q) → p.Leaves d c → p.after.session.IsAt d q →
      Tells d p [.completed c, .changed q]
  | closing {c redirect} : p.answer = some (.ended redirect) → p.Leaves d c →
      Tells d p [.completed c, .finished p.after.session.answers redirect]
  | blank {redirect} : d.pages = [] → p.answer = some (.ended redirect) →
      Tells d p [.finished p.after.session.answers redirect]
  | returned {q} : p.call.isBack = true → p.answer = some (.moved q) → p.after.session.IsAt d q →
      Tells d p [.changed q]
  | silent : p.answer.any Transition.isMove = false → p.answer.any Transition.isEnd = false → Tells d p []

/-! ### The end is told last -/

section
variable [Grammars] {setup : Setup} {store : Entries Answers} {given : Answers} {log : List Passage} {r r' : Run}
  {m : Move}

/-- Once the end has been told, nothing is told any more. -/
theorem Regime.events_of_ended (h : Regime r) (hend : r.endings ≠ []) (hm : r.move? setup m = some r') :
    r'.events = r.events := by
  cases h with
  | resting _ _ hnil | flying _ _ _ _ hnil | closing _ _ _ _ _ hnil => exact absurd hnil hend
  | ended hp hn =>
    cases m with
    | call c =>
      obtain rfl := Option.some.inj hm
      rfl
    | deliver | cache | tick => exact (move?_still rfl hm).events
    | advance n =>
      obtain ⟨stage, stage', advances⟩ := move?_advance hm
      cases hr : stage.refusal? with
      | some t =>
        rw [move?_refused (not_active_of_ending? hp) advances.found hr] at hm
        obtain rfl := Option.some.inj hm
        rfl
      | none =>
        have hs := hn stage advances.mem
        cases stage with
        | record | depart | back => cases hr
        | note | arrive | settle | await | tell => cases hs
        | done => exact absurd advances.effect.rank_lt (Nat.not_lt_zero _)
        | clear g redirect =>
          obtain ⟨_, _, acts, rfl⟩ := Acts.of_move? hm advances.found
          cases acts with
          | refused _ hrefused => cases hrefused
          | cleared => rfl

/-- A move that tells the end tells nothing else. -/
theorem move?_ending (hm : r.move? setup m = some r') : r'.endings = r.endings ∨ ∃ e, r'.events = r.events ++ [e] := by
  rcases move?_cases hm with ⟨-, beside⟩ | ⟨n, stage, stage', hp, advances⟩
  · exact Or.inl beside.endings
  · cases stage with
    | tell answers redirect due =>
      obtain rfl : m = .advance n := by
        cases m with
        | advance k =>
          obtain ⟨_, -, hk⟩ := Option.map_eq_some_iff.mp hp
          rw [(Passage.mk.inj hk).1]
        | call | deliver | cache | tick => cases hp
      obtain ⟨_, _, acts, rfl⟩ := Acts.of_move? hm advances.found
      cases acts with
      | refused _ hrefused => cases hrefused
      | told => exact Or.inr ⟨_, rfl⟩
    | record | depart | back | note | arrive | settle | await | clear | done =>
      exact Or.inl (advances.endings.trans (List.append_nil _))

omit [Grammars] in
theorem ending?_of_endings_eq_nil {e : Event} (h : r.endings = []) (he : e ∈ r.events) : e.ending? = none :=
  List.filterMap_eq_nil_iff.mp h e he

theorem Reaches.end_is_last {before after : List Event} {e : Event} (h : Reaches setup (start setup store given) log r)
    (hevents : r.events = before ++ e :: after) (he : e.ending? ≠ none) : after = [] := by
  induction h generalizing before e after with
  | refl => exact absurd hevents.symm (List.append_ne_nil_of_right_ne_nil _ (List.cons_ne_nil _ _))
  | @step log r r' m hr hm ih =>
    have mem : e ∈ r'.events := hevents ▸ List.mem_append_right _ List.mem_cons_self
    by_cases hend : r.endings = []
    · rcases move?_ending hm with hsame | ⟨told, hlast⟩
      · exact absurd (ending?_of_endings_eq_nil (hsame.trans hend) mem) he
      · -- The end is what this move tells, since nothing before it was.
        rcases List.eq_nil_or_concat after with rfl | ⟨after, last, rfl⟩
        · rfl
        · rw [hevents, List.concat_eq_append, ← List.cons_append, ← List.append_assoc] at hlast
          obtain ⟨hearlier, -⟩ := List.append_inj' hlast rfl
          exact absurd (ending?_of_endings_eq_nil hend (hearlier ▸ List.mem_append_right _ List.mem_cons_self)) he
    · rw [(hr.regime (Regime.start setup store given)).events_of_ended hend hm] at hevents
      exact ih hevents he

/-- The progress is told first and then the end. -/
theorem Reaches.story_eq (h : Reaches setup (start setup store given) log r) :
    r.story = r.progress.filterMap Event.told? ++ r.endings.map fun e => .finished e.1 e.2 := by
  have of_progress : ∀ events : List Event, (∀ e ∈ events, e.ending? = none) →
      events.filterMap Event.told? = (events.filter Event.isProgress).filterMap Event.told? := by
    intro events hnone
    rw [List.filterMap_filter]
    refine List.filterMap_congr fun e he => ?_
    cases e with
    | completed | changed | reentered => rfl
    | finished => cases hnone _ he
  rcases List.eq_nil_or_concat r.events with hnil | ⟨earlier, e, hlast⟩
  · simp only [story, progress, endings, hnil]
    rfl
  · rw [List.concat_eq_append] at hlast
    have hnone : ∀ e' ∈ earlier, e'.ending? = none := by
      intro e' he'
      by_contra hend
      obtain ⟨before, after, rfl⟩ := List.append_of_mem he'
      rw [List.append_assoc, List.cons_append] at hlast
      exact List.concat_ne_nil e after (h.end_is_last hlast hend)
    rw [story, hlast, List.filterMap_append, of_progress earlier hnone, progress, hlast, List.filter_append,
      List.filterMap_append, endings, hlast, List.filterMap_append, List.filterMap_eq_nil_iff.mpr hnone,
      List.nil_append, List.append_assoc]
    cases e <;> rfl

end

/-! ### Between calls -/

section
variable [Grammars] {setup : Setup} {store : Entries Answers} {given : Answers} {log : List Passage} {r₀ r r' : Run}
  {n : Nat}
  {c : Call} {t : Option Transition} {played : List Played}

theorem Completes.calls (h : Completes setup n r t r') :
    r'.calls[n]? = some (.done t) ∧ ∀ k, k ≠ n → r'.calls[k]? = r.calls[k]? := by
  induction h with
  | done hdone => exact ⟨hdone, fun _ _ => rfl⟩
  | step m hfor hm _ ih =>
    refine ⟨ih.1, fun k hk => (ih.2 k hk).trans ?_⟩
    rcases Move.isAmbient_or_advance hfor with ham | rfl
    · rw [(move?_still ham hm).calls]
    · obtain ⟨stage, stage', advances⟩ := move?_advance hm
      exact advances.getElem?_ne hk

/-- Between calls made one after the other no call is under way. -/
theorem Plays.calls_done (h : Plays setup (start setup store given) played r) :
    ∀ stage ∈ r.calls, ∃ t, stage = .done t := by
  induction h with
  | nil => exact fun _ hs => absurd hs List.not_mem_nil
  | @concat played c t r r₁ r' _ hcall hdone ih =>
    obtain rfl := Option.some.inj hcall
    obtain ⟨hlast, hothers⟩ := hdone.calls
    intro stage hs
    obtain ⟨k, hk⟩ := List.getElem?_of_mem hs
    by_cases hn : k = r.calls.length
    · rw [hn, hlast] at hk
      exact ⟨t, (Option.some.inj hk).symm⟩
    · rw [hothers k hn, List.getElem?_append] at hk
      split at hk
      · exact ih stage (List.mem_of_getElem? hk)
      · rw [List.getElem?_eq_none (by simp only [List.length_singleton]; omega)] at hk
        cases hk

omit [Grammars] in
/-- Where no call is under way, the end has been told if the session has ended. -/
theorem Regime.endings_of_done (h : Regime r) (hdone : ∀ stage ∈ r.calls, ∃ t, stage = .done t) :
    r.endings = r.session.phase.ending?.toList.map (r.session.answers, ·) := by
  have done_at : ∀ {n : Nat} {stage : Stage}, r.calls[n]? = some stage → ∃ t, stage = .done t := fun hn =>
    hdone _ (List.mem_of_getElem? hn)
  cases h with
  | resting hp _ hend => rw [hend, hp]; rfl
  | flying _ hn hd =>
    obtain ⟨t, rfl⟩ := done_at hn
    cases hd
  | closing _ hn hr =>
    obtain ⟨t, rfl⟩ := done_at hn
    cases hr
  | ended hp _ hend => rw [hend, hp]; rfl

/-- While no page is active, a call comes to nothing. -/
theorem conclude_of_not_active {d : Document} {s : Session} (h : s.phase.isActive = false) (c : Call) :
    ∃ t, c.stage.refusal? = some t ∧ c.stage.conclude d s = ⟨s.core, t, []⟩ := by
  cases c with
  | next submitted =>
    refine ⟨_, rfl, ?_⟩
    rw [Call.stage, Stage.conclude, Session.leaving, Session.depart_of_not_active h]
    rfl
  | set id v =>
    refine ⟨_, rfl, ?_⟩
    rw [Call.stage, Stage.conclude, Session.record_of_not_active h]
  | previous =>
    refine ⟨_, rfl, ?_⟩
    rw [Call.stage, Stage.conclude, Session.back_of_not_active h]
    rfl

/-- A call tells what it comes to, and nothing while no page is active. -/
theorem Plays.story_concat (h : Plays setup (start setup store given) played r) {r₁ : Run}
    (hcall : r.move? setup (.call c) = some r₁) (hdone : Completes setup r.calls.length r₁ t r') :
    ∃ news, c.stage.conclude setup.document r.session = ⟨r'.session.core, t, news⟩ ∧
      r'.story = r.story ++ if r.session.phase.isActive then (c.stage.conclude setup.document r.session).tale else [] := by
  have h' := h.concat hcall hdone
  obtain ⟨log, hlog⟩ := h.reaches
  obtain ⟨log', hlog'⟩ := h'.reaches
  obtain rfl := Option.some.inj hcall
  obtain ⟨news, hprogress, hconclude⟩ := hdone.concludes List.getElem?_concat_length
  have hprogress : r'.progress = r.progress ++ news := hprogress
  have hconclude : c.stage.conclude setup.document r.session = ⟨r'.session.core, t, news⟩ := hconclude
  have hends := (hlog.regime (Regime.start setup store given)).endings_of_done h.calls_done
  have hends' := (hlog'.regime (Regime.start setup store given)).endings_of_done h'.calls_done
  have hstory := hlog'.story_eq
  rw [hprogress, List.filterMap_append, hends', List.map_map] at hstory
  refine ⟨news, hconclude, ?_⟩
  cases hp : r.session.phase.isActive with
  | true =>
    obtain ⟨i, hi⟩ := Phase.isActive_iff.mp hp
    have hnone : r.endings = [] := by
      rw [hends, hi]
      rfl
    rw [hstory, hlog.story_eq, hnone, hconclude, List.map_nil, List.append_nil, List.append_assoc, if_pos rfl]
    rfl
  | false =>
    obtain ⟨_, -, hrefused⟩ := conclude_of_not_active (d := setup.document) hp c
    rw [hconclude] at hrefused
    obtain ⟨hcore, -, rfl⟩ := Conclusion.mk.inj hrefused
    rw [hstory, hlog.story_eq, hends, List.map_map, Session.phase_of_core hcore, Session.answers_of_core hcore,
      List.filterMap_nil, List.append_nil, if_neg Bool.false_ne_true, List.append_nil]

end

/-! ### What a call tells -/

section
variable {d : Document} {s : Session} {i : Nat} {submitted : Answers} {p : Played} {news : List Event}

theorem destination_ref {o : Outcome} {q : PageRef} (h : Session.destination d i o = .page q) :
    ∃ page, d.pages[q.index]? = some page ∧ q = page.ref q.index := by
  unfold Session.destination at h
  split at h
  · cases h
  · simp only at h
    split at h
    · rename_i page hp
      obtain rfl := Destination.page.inj h
      exact ⟨page, hp, rfl⟩
    · cases h

theorem eq_of_isAt {q q' : PageRef} (h : s.IsAt d q) (h' : s.IsAt d q') : q' = q := by
  obtain ⟨page, hp, hq⟩ := h.page
  obtain ⟨page', hp', hq'⟩ := h'.page
  have hindex : q'.index = q.index := h'.index.symm.trans h.index
  rw [hindex, hp] at hp'
  obtain rfl := Option.some.inj hp'
  rw [hq', hq, hindex]

theorem leaving_of_invalid [Grammars] {complaints : Complaints} (hi : s.phase = .active i)
    (hv : validate (s.visible d i) (s.answers.extend submitted) = some complaints) :
    s.leaving d submitted = ⟨{ s with answers := s.answers.extend submitted, complaints := some complaints }.core,
      some (.invalid complaints), []⟩ := by
  rw [Session.leaving, Session.depart_of_invalid hi hv]
  rfl

theorem leaving_of_valid [Grammars] (hi : s.phase = .active i)
    (hv : validate (s.visible d i) (s.answers.extend submitted) = none) :
    s.leaving d submitted = ((s.left d i submitted).arriving (s.toward d i submitted)).after
      (((d.pages[i]?).map fun page => Completion.mk (page.ref i)
        (answersOf (s.visible d i) (s.answers.extend submitted))).toList.map .completed) := by
  rw [Session.leaving, Session.depart_of_valid hi hv]

theorem pages_eq_nil_of_shown (hshown : d.pages = [] ∨ ∃ q, s.IsAt d q ∧ q.index = i) (hp : d.pages[i]? = none) :
    d.pages = [] := by
  rcases hshown with hnil | ⟨q, hq, rfl⟩
  · exact hnil
  · obtain ⟨page, hsome, -⟩ := hq.page
    rw [hp] at hsome
    cases hsome

theorem leaves_of_shown {page : Page} (hshown : d.pages = [] ∨ ∃ q, p.before.session.IsAt d q ∧ q.index = i)
    (hp : d.pages[i]? = some page) :
    p.Leaves d ⟨page.ref i, answersOf (p.before.session.visible d i) p.after.session.answers⟩ := by
  rcases hshown with hnil | ⟨q, hq, rfl⟩
  · rw [hnil] at hp
    cases hp
  · obtain ⟨page', hp', href⟩ := hq.page
    rw [hp] at hp'
    obtain rfl := Option.some.inj hp'
    refine ⟨href ▸ hq, fun id v => ?_⟩
    rw [get?_answersOf]
    rfl

/-- A request to go on from the active page tells its part, also one for an answer that has just been recorded. -/
theorem tells_leaving [Grammars] (hback : p.call.isBack = false) (hi : s.phase = .active i)
    (hshown : d.pages = [] ∨ ∃ q, p.before.session.IsAt d q ∧ q.index = i)
    (hvisible : s.visible d i = p.before.session.visible d i)
    (hconclude : s.leaving d submitted = ⟨p.after.session.core, p.answer, news⟩) :
    Tells d p (s.leaving d submitted).tale := by
  cases hv : validate (s.visible d i) (s.answers.extend submitted) with
  | some complaints =>
    rw [leaving_of_invalid hi hv] at hconclude ⊢
    obtain ⟨-, hanswer, -⟩ := Conclusion.mk.inj hconclude
    rw [Conclusion.tale_of_active (i := i) hi]
    exact .silent (by rw [← hanswer]; rfl) (by rw [← hanswer]; rfl)
  | none =>
    rw [leaving_of_valid hi hv] at hconclude ⊢
    obtain ⟨hcore, hanswer, -⟩ := Conclusion.mk.inj hconclude
    have hanswers : p.after.session.answers = s.answers.extend submitted := by
      rw [Session.answers_of_core hcore.symm]
      cases s.toward d i submitted <;> rfl
    rw [hvisible, ← hanswers]
    cases hp : d.pages[i]? with
    | none =>
      have hnil := pages_eq_nil_of_shown hshown hp
      cases hd : s.toward d i submitted with
      | page q =>
        obtain ⟨page, hsome⟩ := Session.pages_of_toward hd
        rw [hp] at hsome
        cases hsome
      | elsewhere url =>
        show Tells d p [.finished (s.answers.extend submitted) (some url)]
        rw [← hanswers]
        exact .blank hnil (by rw [← hanswer, hd]; rfl)
      | finish =>
        show Tells d p [.finished (s.answers.extend submitted) none]
        rw [← hanswers]
        exact .blank hnil (by rw [← hanswer, hd]; rfl)
    | some page =>
      have leaves := leaves_of_shown hshown hp
      cases hd : s.toward d i submitted with
      | page q =>
        obtain ⟨hpage, href⟩ := destination_ref hd
        rw [hd] at hcore hanswer
        exact .onward hback hanswer.symm leaves ⟨Session.phase_of_core hcore.symm, (congrArg Session.index hcore).symm,
          hpage, href⟩
      | elsewhere url =>
        show Tells d p [.completed _, .finished (s.answers.extend submitted) (some url)]
        rw [← hanswers]
        exact .closing (by rw [← hanswer, hd]; rfl) leaves
      | finish =>
        show Tells d p [.completed _, .finished (s.answers.extend submitted) none]
        rw [← hanswers]
        exact .closing (by rw [← hanswer, hd]; rfl) leaves

/-- A call that is made while a page is active tells its part of the story. -/
theorem tells_of_active [Grammars] (hi : p.before.session.phase = .active i)
    (hshown : d.pages = [] ∨ ∃ q, p.before.session.IsAt d q ∧ q.index = i)
    (hconclude : p.call.stage.conclude d p.before.session = ⟨p.after.session.core, p.answer, news⟩) :
    Tells d p (p.call.stage.conclude d p.before.session).tale := by
  obtain ⟨call, before, answer, after⟩ := p
  simp only at hi hshown hconclude ⊢
  cases call with
  | next submitted => exact tells_leaving rfl hi hshown rfl hconclude
  | set id v =>
    simp only [Call.stage, Stage.conclude, Session.record_of_active hi] at hconclude ⊢
    split at hconclude
    · rename_i hadvances
      rw [if_pos hadvances]
      exact tells_leaving rfl hi hshown rfl hconclude
    · rename_i hstays
      obtain ⟨-, rfl, -⟩ := Conclusion.mk.inj hconclude
      rw [if_neg hstays, Conclusion.tale_of_active (i := i) hi]
      exact .silent rfl rfl
  | previous =>
    cases hh : before.session.history with
    | nil =>
      simp only [Call.stage, Stage.conclude, Session.back_of_empty hh] at hconclude ⊢
      obtain ⟨-, rfl, -⟩ := Conclusion.mk.inj hconclude
      rw [Conclusion.tale_of_active (i := i) hi]
      exact .silent rfl rfl
    | cons snapshot rest =>
      simp only [Call.stage, Stage.conclude, Session.back_of_snapshot hi hh] at hconclude ⊢
      obtain ⟨hcore, rfl, -⟩ := Conclusion.mk.inj hconclude
      cases hp : d.pages[snapshot.index]? with
      | none => exact .silent rfl rfl
      | some page =>
        exact .returned rfl rfl ⟨Session.phase_of_core hcore.symm, (congrArg Session.index hcore).symm, page, hp, rfl⟩

end

/-! ### The whole story -/

/-- What is known of the story when calls have been made one after the other. -/
structure Storied (d : Document) (played : List Played) (r : Run) : Prop where
  told : ∃ tales, List.Forall₂ (Tells d) played tales ∧ r.story = tales.flatten
  announced : r.session.phase.isActive = true → d.pages = [] ∨ ∃ q, r.session.IsAt d q ∧ announced? d r.story = some q
  completed : ∀ before c after, r.story = before ++ .completed c :: after → announced? d before = some c.page

section
variable {d : Document} {story before after tale : List Told} {p : Played} {q : PageRef} {c : Completion}

theorem announced?_concat (d : Document) (story : List Told) (q : PageRef) :
    announced? d (story ++ [.changed q]) = some q := by
  rw [announced?, List.filterMap_append, List.getLast?_append]
  rfl

/-- A completed page is told at the beginning of what a call tells, and the call has left that page. -/
theorem Tells.eq_nil_of_completed (h : Tells d p tale) (htale : tale = before ++ .completed c :: after) :
    before = [] ∧ p.Leaves d c := by
  cases before with
  | nil =>
    refine ⟨rfl, ?_⟩
    cases h with
    | onward _ _ leaves | closing _ leaves =>
      cases htale
      exact leaves
    | blank | returned | silent => cases htale
  | cons told before =>
    have short : ∀ told : Told, [told] = before ++ .completed c :: after → ∃ c', told = .completed c' := by
      intro told hone
      rcases List.append_eq_singleton_iff.mp hone.symm with ⟨-, hlast⟩ | ⟨-, hnil⟩
      · exact ⟨c, (List.cons.inj hlast).1.symm⟩
      · cases hnil
    cases h with
    | onward | closing =>
      obtain ⟨-, hone⟩ := List.cons.inj htale
      obtain ⟨c', hc⟩ := short _ hone
      cases hc
    | blank | returned =>
      obtain ⟨-, hnil⟩ := List.cons.inj htale
      exact absurd hnil.symm (List.append_ne_nil_of_right_ne_nil _ (List.cons_ne_nil _ _))
    | silent => cases htale

end

section
variable [Grammars] {setup : Setup} {store : Entries Answers} {given : Answers} {r r₁ r' : Run} {c : Call}
  {t : Option Transition} {played : List Played}

omit [Grammars] in
theorem Storied.start (setup : Setup) (store : Entries Answers) (given : Answers) :
    Storied setup.document [] (Run.start setup store given) := by
  refine ⟨⟨[], .nil, rfl⟩, fun _ => ?_, fun before c after h => ?_⟩
  · cases hpages : setup.document.pages with
    | nil => exact Or.inl rfl
    | cons first rest =>
      have hfirst : setup.document.pages[0]? = some first := by rw [hpages]; rfl
      refine Or.inr ⟨first.ref 0, ⟨rfl, rfl, first, hfirst, rfl⟩, ?_⟩
      rw [announced?, hfirst]
      rfl
  · exact absurd h.symm (List.append_ne_nil_of_right_ne_nil _ (List.cons_ne_nil _ _))

/-- One more call tells its part. -/
theorem Plays.tells (h : Plays setup (start setup store given) played r) (storied : Storied setup.document played r)
    (hcall : r.move? setup (.call c) = some r₁) (hdone : Completes setup r.calls.length r₁ t r') :
    ∃ tale, r'.story = r.story ++ tale ∧ Tells setup.document ⟨c, r, t, r'⟩ tale := by
  obtain ⟨news, hconclude, hstory⟩ := h.story_concat hcall hdone
  cases hp : r.session.phase.isActive with
  | true =>
    rw [hp, if_pos rfl] at hstory
    obtain ⟨i, hi⟩ := Phase.isActive_iff.mp hp
    refine ⟨_, hstory, tells_of_active (p := ⟨c, r, t, r'⟩) hi ?_ hconclude⟩
    refine (storied.announced hp).imp_right ?_
    rintro ⟨q, hq, -⟩
    have hindex := hq.phase
    rw [hi] at hindex
    exact ⟨q, hq, (Phase.active.inj hindex).symm⟩
  | false =>
    rw [hp, if_neg Bool.false_ne_true] at hstory
    obtain ⟨answer, hrefusal, hrefused⟩ := conclude_of_not_active (d := setup.document) hp c
    rw [hconclude] at hrefused
    obtain ⟨-, rfl, -⟩ := Conclusion.mk.inj hrefused
    refine ⟨[], hstory, .silent ?_ ?_⟩ <;>
      (cases c <;> (cases hrefusal; rfl))

omit [Grammars] in
/-- The page that a call leaves is the one that was announced last. -/
theorem Storied.announced_of_leaves {c' : Completion} (storied : Storied setup.document played r)
    (leaves : (⟨c, r, t, r'⟩ : Played).Leaves setup.document c') :
    announced? setup.document r.story = some c'.page := by
  have hshown : r.session.IsAt setup.document c'.page := leaves.shown
  rcases storied.announced (by rw [hshown.phase]; rfl) with hnil | ⟨q, hq, hannounced⟩
  · obtain ⟨page, hp, -⟩ := hshown.page
    rw [hnil] at hp
    cases hp
  · rw [hannounced, eq_of_isAt hq hshown]

/-- If a page is active after one more call, it is the one that was announced last. -/
theorem Storied.announced_concat {tale : List Told} (storied : Storied setup.document played r)
    (h : Plays setup (Run.start setup store given) played r) (hcall : r.move? setup (.call c) = some r₁)
    (hdone : Completes setup r.calls.length r₁ t r') (hstory : r'.story = r.story ++ tale)
    (tells : Tells setup.document ⟨c, r, t, r'⟩ tale) (hp : r'.session.phase.isActive = true) :
    setup.document.pages = [] ∨ ∃ q, r'.session.IsAt setup.document q ∧ announced? setup.document r'.story = some q := by
  have hbefore := h.active_before hcall hdone hp
  obtain ⟨log, hlog⟩ := h.reaches
  have answered := hdone.answered_of_active hlog hbefore hcall
  have last : ∀ q told, r'.session.IsAt setup.document q → r'.story = told ++ [.changed q] →
      setup.document.pages = [] ∨ ∃ q, r'.session.IsAt setup.document q ∧ announced? setup.document r'.story = some q :=
    fun q told hq htold => Or.inr ⟨q, hq, by rw [htold, announced?_concat]⟩
  have going : t.any Transition.isEnd = false := by
    cases answered with
    | stayed _ _ hnot => exact hnot
    | moved | returned => rfl
    | ended _ hterm =>
      rw [not_active_of_isTerminal hterm] at hp
      cases hp
  cases tells with
  | @onward c' q _ _ _ hq => exact last q (r.story ++ [.completed c']) hq (by rw [hstory, List.append_assoc]; rfl)
  | @returned q _ _ hq => exact last q r.story hq hstory
  | closing hended | blank _ hended =>
    obtain rfl : t = some (.ended _) := hended
    rw [Option.any_some, Transition.isEnd_ended] at going
    cases going
  | silent hmove hend =>
    -- The call has told nothing, and has left the session at its place.
    have place : r.session.SamePlace r'.session := by
      cases answered with
      | stayed same => exact same
      | moved | returned => cases hmove
      | ended hended =>
        rw [Option.any_some, hended] at hend
        cases hend
    rw [hstory, List.append_nil]
    refine (storied.announced hbefore).imp_right ?_
    rintro ⟨q, hq, hannounced⟩
    exact ⟨q, ⟨place.phase.trans hq.phase, place.index.trans hq.index, hq.page⟩, hannounced⟩

theorem Storied.concat (storied : Storied setup.document played r)
    (h : Plays setup (Run.start setup store given) played r)
    (hcall : r.move? setup (.call c) = some r₁) (hdone : Completes setup r.calls.length r₁ t r') :
    Storied setup.document (played ++ [⟨c, r, t, r'⟩]) r' := by
  obtain ⟨tale, hstory, tells⟩ := h.tells storied hcall hdone
  refine ⟨?_, storied.announced_concat h hcall hdone hstory tells, fun before c' after hcompleted => ?_⟩
  · obtain ⟨tales, htales, hflat⟩ := storied.told
    refine ⟨tales ++ [tale], List.rel_append htales (.cons tells .nil), ?_⟩
    rw [hstory, hflat, List.flatten_append, List.flatten_cons, List.flatten_nil, List.append_nil]
  · rw [hstory] at hcompleted
    rcases List.append_eq_append_iff.mp hcompleted with ⟨l, rfl, htale⟩ | ⟨l, hearlier, hrest⟩
    · obtain ⟨rfl, leaves⟩ := tells.eq_nil_of_completed htale
      rw [List.append_nil]
      exact storied.announced_of_leaves leaves
    · cases l with
      | nil =>
        rw [List.append_nil] at hearlier
        obtain ⟨-, leaves⟩ := tells.eq_nil_of_completed (show tale = [] ++ _ from hrest.symm)
        exact hearlier ▸ storied.announced_of_leaves leaves
      | cons told l =>
        obtain ⟨rfl, -⟩ := List.cons.inj hrest
        exact storied.completed before c' l hearlier

theorem Plays.storied (h : Plays setup (start setup store given) played r) : Storied setup.document played r := by
  induction h with
  | nil => exact Storied.start setup store given
  | concat h hcall hdone ih => exact ih.concat h hcall hdone

/-- Any calls can be made one after the other, whatever the observer calls from inside. What the observer is told is then
what each call tells in turn, by its answer: the page that it leaves, if the document has pages, and the page that it
moves to or the end of the session; only the page that it goes back to; and otherwise nothing. Every page that is
completed is the one that was announced last, the first one if none was, and nothing is told after the end. -/
theorem observer_is_told (setup : Setup) (store : Entries Answers) (given : Answers) :
    (∀ calls, ∃ played r, Plays setup (start setup store given) played r ∧ played.map Played.call = calls) ∧
    ∀ played r, Plays setup (start setup store given) played r →
      (∃ tales, List.Forall₂ (Tells setup.document) played tales ∧ r.story = tales.flatten) ∧
      (∀ before c after, r.story = before ++ .completed c :: after → announced? setup.document before = some c.page) ∧
      ∀ before answers redirect after, r.story = before ++ .finished answers redirect :: after → after = [] := by
  refine ⟨plays_exists setup store given, fun played r h => ?_⟩
  refine ⟨h.storied.told, h.storied.completed, fun before answers redirect after hstory => ?_⟩
  obtain ⟨log, hlog⟩ := h.reaches
  obtain ⟨earlier, rest, hevents, -, hrest⟩ := List.filterMap_eq_append_iff.mp hstory
  obtain ⟨quiet, e, later, rfl, -, he, hlater⟩ := List.filterMap_eq_cons_iff.mp hrest
  have hend : e.ending? ≠ none := by
    cases e with
    | finished => exact Option.some_ne_none _
    | completed | changed | reentered => cases he
  rw [← List.append_assoc] at hevents
  rw [← hlater, hlog.end_is_last hevents hend]
  rfl

end

/-- Two pages, and an observer that calls from inside whenever it is told of a completed page. -/
def interrupted : Setup where
  document := twoPages.document
  observer := { inside := fun _ => [.next ∅, .previous] }
  window := 0

open scoped Grammars in
/-- On, back, on again and to the end: the observer is told of seven things, and what it calls from inside adds nothing. -/
theorem observer_is_told_of_return : ∃ played r tales, Plays interrupted (start interrupted ∅ ∅) played r ∧
    played.map Played.call = [.next ∅, .previous, .next ∅, .next ∅] ∧
    List.Forall₂ (Tells interrupted.document) played tales ∧ r.story = tales.flatten ∧ r.story.length = 7 ∧
    announced? interrupted.document r.story = some ⟨"second", 1, ""⟩ := by
  obtain ⟨played, r, h, hcalls, hlength, hannounced⟩ : ∃ played r, Plays interrupted (start interrupted ∅ ∅) played r ∧
      played.map Played.call = [.next ∅, .previous, .next ∅, .next ∅] ∧ r.story.length = 7 ∧
      announced? interrupted.document r.story = some ⟨"second", 1, ""⟩ :=
    ⟨_, _, .concat (.concat (.concat (.concat .nil rfl (.of_follow? [.advance 0, .advance 0] rfl rfl rfl)) rfl
      (.of_follow? [.advance 1] rfl rfl rfl)) rfl (.of_follow? [.advance 2, .advance 2] rfl rfl rfl)) rfl
      (.of_follow? [.advance 3, .advance 3, .advance 3, .advance 3, .advance 3, .cache .serve, .cache .finish,
        .advance 3] rfl rfl rfl), rfl, rfl, rfl⟩
  obtain ⟨⟨tales, htales, hstory⟩, -⟩ := (observer_is_told interrupted ∅ ∅).2 played r h
  exact ⟨played, r, tales, h, hcalls, htales, hstory, hlength, hannounced⟩

end Run

end Questionnaire
