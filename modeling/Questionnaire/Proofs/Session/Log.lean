import Questionnaire.Proofs.Session.Advance

/-!
# The log of a run

A run goes on by moves, in any order. What matters of it for the session is the log of the sections that calls went
through: `Run.Reaches` says which runs can come of one, and with which logs. `Effect` says once what a section can
do to the session and where it leaves its call; `Run.move?_cases` reduces every move to it, so that a property of
all runs is an induction by `Reaches.by_passages` with the cases of `Effect`.
-/

namespace Questionnaire

/-- Where a call is going that has left a page and not yet arrived. -/
def Stage.destination? : Stage → Option Destination
  | note _ destination | arrive destination => some destination
  | _ => none

/-- What a call is telling the observer of the end. -/
def Stage.ending? : Stage → Option (Answers × Option String)
  | tell answers redirect _ => some (answers, redirect)
  | _ => none

theorem Stage.ending?_of_refusal? {stage : Stage} {t : Option Transition} (h : stage.refusal? = some t) :
    stage.ending? = none := by
  cases stage <;> cases h <;> rfl

theorem Run.isReady_of_destination? {r : Run} {stage : Stage} {destination : Destination}
    (hd : stage.destination? = some destination) : r.IsReady stage := by
  cases stage with
  | note | arrive => trivial
  | record | depart | back | settle | await | tell | clear | done => cases hd

theorem Destination.destination?_noted (destination : Destination) (handle : Option Nat) :
    (destination.noted handle).destination? = some destination := by
  cases handle <;> rfl

/-- What the observer has been told of the end. -/
def Event.ending? : Event → Option (Answers × Option String)
  | finished answers redirect _ => some (answers, redirect)
  | _ => none

/-- The call is answered that the session has ended. -/
def Transition.isEnd : Transition → Bool
  | redirected _ | completed => true
  | _ => false

/-- The stage of a call that has arrived. -/
def Destination.stage : Destination → Stage
  | page p => .done (some (.moved p))
  | elsewhere url => .settle (some url)
  | finish => .settle none

theorem Destination.destination?_stage (destination : Destination) : destination.stage.destination? = none := by
  cases destination <;> rfl

/-- What the section of a call at a stage does to the session, and the stage that the call comes to. -/
inductive Effect [Grammars] (d : Document) : Session → Stage → Session → Stage → Prop
  | refused {s stage t} : s.phase.isActive = false → stage.refusal? = some t → Effect d s stage s (.done t)
  | recorded {s i id v} : s.phase = .active i →
      Effect d s (.record id v) { s with answers := s.answers.insert id v }
        (if s.advancesOn d i id then .depart ∅ else .done none)
  | rejected {s i submitted complaints} : s.phase = .active i →
      validate (s.visible d i) (s.answers.extend submitted) = some complaints →
      Effect d s (.depart submitted)
        { s with answers := s.answers.extend submitted, complaints := some complaints }
        (.done (some (.invalid complaints)))
  | departed {s i submitted stage} : s.phase = .active i →
      validate (s.visible d i) (s.answers.extend submitted) = none →
      stage.destination? = some (s.toward d i submitted) →
      Effect d s (.depart submitted) (s.left d i submitted) stage
  | stayed {s i} : s.phase = .active i → s.history = [] → Effect d s .back s (.done (some .ignored))
  | returned {s i snapshot rest} : s.phase = .active i → s.history = snapshot :: rest →
      Effect d s .back (s.restored snapshot rest)
        (.done (some (((d.pages[snapshot.index]?).map fun p => .moved (p.ref snapshot.index)).getD .ignored)))
  | noted {s n destination pending} :
      Effect d s (.note n destination) { s with pending := pending } (.arrive destination)
  | arrived {s destination} : Effect d s (.arrive destination) (s.arrive destination) destination.stage
  | settled {s redirect} :
      Effect d s (.settle redirect) { s with pending := [] } (.await s.pending s.answers redirect)
  | awaited {s deliveries answers redirect due} :
      Effect d s (.await deliveries answers redirect) s (.tell answers redirect due)
  | told {s answers redirect due generation} :
      Effect d s (.tell answers redirect due) s (.clear generation redirect)
  | cleared {s generation redirect t} : Effect d s (.clear generation redirect) s (.done (some t))

/-- The sessions are at the same place of the document and have come there in the same way. -/
structure Session.SamePlace (s s' : Session) : Prop where
  phase : s'.phase = s.phase
  index : s'.index = s.index
  vars : s'.vars = s.vars
  hidden : s'.hidden = s.hidden
  history : s'.history = s.history

section
variable [Grammars] {d : Document} {s s' : Session} {stage stage' : Stage}

/-- A section leaves the session at its place, or leaves a page, goes back to one or arrives. -/
theorem Effect.place (h : Effect d s stage s' stage') :
    (s.SamePlace s' ∧ ∀ destination, stage'.destination? = some destination → stage.destination? = some destination) ∨
    (∃ i submitted, s.phase = .active i ∧ stage = .depart submitted ∧
      validate (s.visible d i) (s.answers.extend submitted) = none ∧ s' = s.left d i submitted ∧
      stage'.destination? = some (s.toward d i submitted)) ∨
    (∃ i snapshot rest, s.phase = .active i ∧ stage = .back ∧ s.history = snapshot :: rest ∧
      s' = s.restored snapshot rest ∧ stage'.destination? = none) ∨
    ∃ destination, stage = .arrive destination ∧ s' = s.arrive destination ∧ stage'.destination? = none := by
  cases h with
  | refused | rejected | stayed | settled | awaited | told | cleared =>
    exact Or.inl ⟨⟨rfl, rfl, rfl, rfl, rfl⟩, fun _ hd => by cases hd⟩
  | recorded =>
    refine Or.inl ⟨⟨rfl, rfl, rfl, rfl, rfl⟩, fun _ hd => ?_⟩
    split at hd <;> cases hd
  | noted => exact Or.inl ⟨⟨rfl, rfl, rfl, rfl, rfl⟩, fun _ hd => hd⟩
  | departed hi hv hd => exact Or.inr (Or.inl ⟨_, _, hi, rfl, hv, rfl, hd⟩)
  | returned hi hh => exact Or.inr (Or.inr (Or.inl ⟨_, _, _, hi, rfl, hh, rfl, rfl⟩))
  | @arrived destination =>
    exact Or.inr (Or.inr (Or.inr ⟨_, rfl, rfl, destination.destination?_stage⟩))

/-- Every section brings its call closer to its end. -/
theorem Effect.rank_lt (h : Effect d s stage s' stage') : stage'.rank < stage.rank := by
  cases h with
  | refused _ hr => cases stage <;> cases hr <;> exact Nat.zero_lt_succ _
  | recorded => split <;> simp [Stage.rank]
  | departed _ _ hd => cases stage' <;> cases hd <;> simp [Stage.rank]
  | @arrived destination => cases destination <;> simp [Stage.rank, Destination.stage]
  | rejected | stayed | returned | noted | settled | awaited | told | cleared => simp [Stage.rank]

end

namespace Run

/-- What the observer has been told of the end of the session. -/
def endings (r : Run) : List (Answers × Option String) := r.events.filterMap Event.ending?

/-- The runs differ in nothing that the calls or the session could notice. -/
structure Beside (r r' : Run) : Prop where
  session : r'.session = r.session
  calls : r'.calls = r.calls
  endings : r'.endings = r.endings

theorem Beside.refl (r : Run) : Beside r r := ⟨rfl, rfl, rfl⟩

theorem Beside.trans {r₁ r₂ r₃ : Run} (h : Beside r₁ r₂) (h' : Beside r₂ r₃) : Beside r₁ r₃ :=
  ⟨h'.session.trans h.session, h'.calls.trans h.calls, h'.endings.trans h.endings⟩

theorem endings_tell (e : Event) (r : Run) : (r.tell e).endings = r.endings ++ e.ending?.toList := by
  simp only [endings, tell, List.filterMap_append, List.filterMap_cons, List.filterMap_nil]
  cases e.ending? <;> rfl

theorem Beside.tell {e : Event} (he : e.ending? = none) (r : Run) : Beside r (r.tell e) :=
  ⟨rfl, rfl, by rw [endings_tell, he, Option.toList_none, List.append_nil]⟩

theorem Beside.cacheAnswers (setup : Setup) (r : Run) : Beside r (r.cacheAnswers setup) := ⟨rfl, rfl, rfl⟩

section
variable [Grammars] {d : Document} {s : Session} {r : Run}

/-- While no page is active, the first section of a call changes nothing. -/
theorem attempt_of_not_active (h : s.phase.isActive = false) (c : Call) : (s.attempt d c).1 = s := by
  cases c with
  | next submitted => simp only [Session.attempt, Session.depart_of_not_active h]
  | set id v => simp only [Session.attempt, Session.record_of_not_active h, Option.map_none, Option.getD_none]
  | previous => simp only [Session.attempt, Session.back_of_not_active h]

theorem attemptAll_of_not_active (h : s.phase.isActive = false) (calls : List Call) :
    (s.attemptAll d calls).1 = s := by
  induction calls with
  | nil => rfl
  | cons c rest ih => simp only [Session.attemptAll, attempt_of_not_active h, ih]

/-- The calls that an observer makes while a page is being left are refused. -/
theorem Beside.reenter (h : r.session.phase.isActive = false) (setup : Setup) :
    Beside r (r.reenter setup) := by
  unfold Run.reenter
  split
  · exact Beside.refl r
  · simp only [attemptAll_of_not_active h]
    exact Beside.tell rfl _

theorem Beside.complete (h : r.session.phase.isActive = false) (setup : Setup) (c : Completion) :
    Beside r (r.complete setup c).1 := by
  have hr : Beside r ((r.tell (.completed c)).reenter setup) :=
    (Beside.tell rfl r).trans (Beside.reenter (by exact h) setup)
  unfold Run.complete
  split
  · exact hr
  · split
    · exact hr
    · exact hr.trans ⟨rfl, rfl, rfl⟩

/-- The observer, told of the page, does not touch the session that has left it. -/
theorem leave_session (setup : Setup) (i : Nat) (submitted : Answers) (page : Page) (r : Run) :
    (r.leave setup i submitted page).1.session = r.session.left setup.document i submitted :=
  (Beside.complete (by exact rfl) setup _).session

end

/-! ### What a section does -/

/-- A section's effect, with the calls and the endings that it leaves. -/
structure Passed [Grammars] (d : Document) (r : Run) (stage : Stage) (r' : Run) (stage' : Stage) : Prop where
  effect : Effect d r.session stage r'.session stage'
  calls : r'.calls = r.calls
  endings : r'.endings = r.endings ++ stage.ending?.toList

section
variable [Grammars] {d : Document} {setup : Setup} {r r' : Run} {stage stage' : Stage}

theorem Passed.beside {r₁ r₂ : Run} (h : Passed d r stage r₁ stage') (hb : Beside r₁ r₂) :
    Passed d r stage r₂ stage' :=
  ⟨hb.session ▸ h.effect, hb.calls.trans h.calls, hb.endings.trans h.endings⟩

theorem Passed.of_effect {s : Session} (he : stage.ending? = none) (h : Effect d r.session stage s stage') :
    Passed d r stage { r with session := s } stage' :=
  ⟨h, rfl, by rw [he, Option.toList_none, List.append_nil]; rfl⟩

/-- Whatever a call does at a stage has one of the effects. -/
theorem Acts.passed (h : Acts setup r stage r' stage') : Passed setup.document r stage r' stage' := by
  cases h with
  | refused ha hr => exact .of_effect (Stage.ending?_of_refusal? hr) (.refused ha hr)
  | recorded hi => exact (Passed.of_effect rfl (.recorded hi)).beside (.cacheAnswers setup _)
  | rejected hi hv => exact .of_effect rfl (.rejected hi hv)
  | vacated hi hv => exact .of_effect rfl (.departed hi hv rfl)
  | departed hi hv =>
    exact (Passed.of_effect rfl (.departed hi hv (Destination.destination?_noted _ _))).beside (.complete rfl setup _)
  | stayed hi hh => exact .of_effect rfl (.stayed hi hh)
  | returned hi hh hp =>
    have returned := Effect.returned (d := setup.document) hi hh
    rw [hp, Option.map_some, Option.getD_some] at returned
    exact (Passed.of_effect rfl returned).beside (.tell rfl _)
  | strayed hi hh hp =>
    have returned := Effect.returned (d := setup.document) hi hh
    rw [hp, Option.map_none, Option.getD_none] at returned
    exact .of_effect rfl returned
  | noted => exact .of_effect rfl .noted
  | reached => exact ((Passed.of_effect rfl .arrived).beside (.cacheAnswers setup _)).beside (.tell rfl _)
  | redirected | finished => exact .of_effect rfl .arrived
  | settled => exact .of_effect rfl .settled
  | awaited => exact .of_effect rfl .awaited
  | told => exact ⟨.told, rfl, endings_tell _ _⟩
  | cleared => exact .of_effect rfl .cleared

end

/-! ### Logs -/

/-- A passage of a call through a section: the stage that it was at, and the session as the section found it. -/
structure Passage where
  call : Nat
  stage : Stage
  session : Session

/-- The passage that a move is, if it is one. -/
def passage? (m : Move) (r : Run) : Option Passage :=
  match m with
  | .advance n => (r.calls[n]?).map fun stage => ⟨n, stage, r.session⟩
  | _ => none

/-- The runs that can come of one by moves in any order, with the log of the passages on the way. -/
inductive Reaches [Grammars] (setup : Setup) (r₀ : Run) : List Passage → Run → Prop
  | refl : Reaches setup r₀ [] r₀
  | step {log r r'} (m : Move) : Reaches setup r₀ log r → r.move? setup m = some r' →
      Reaches setup r₀ (log ++ (r.passage? m).toList) r'

/-- The run that comes of moves one after the other, with their log, if each one may happen. -/
def follow? [Grammars] (setup : Setup) : List Move → Run → Option (List Passage × Run)
  | [], r => some ([], r)
  | m :: ms, r => do
    let (log, r') ← follow? setup ms (← r.move? setup m)
    return ((r.passage? m).toList ++ log, r')

/-- What happens beside the calls that are there; more calls may be made. -/
structure Aside (r r' : Run) : Prop where
  session : r'.session = r.session
  calls : ∃ more : List Call, r'.calls = r.calls ++ more.map Call.stage
  endings : r'.endings = r.endings

/-- Call `n` goes through the section of its stage. -/
structure Advances [Grammars] (d : Document) (n : Nat) (stage stage' : Stage) (r r' : Run) : Prop where
  found : r.calls[n]? = some stage
  effect : Effect d r.session stage r'.session stage'
  calls : r'.calls = r.calls.set n stage'
  endings : r'.endings = r.endings ++ stage.ending?.toList

section
variable {r r' : Run} {n : Nat} {stage : Stage}

theorem Aside.getElem? (h : Aside r r') (hn : r.calls[n]? = some stage) : r'.calls[n]? = some stage := by
  obtain ⟨more, hc⟩ := h.calls
  rw [hc, List.getElem?_append_left (List.getElem?_eq_some_iff.mp hn).1, hn]

theorem Aside.getElem?_cases (h : Aside r r') (hn : r'.calls[n]? = some stage) :
    r.calls[n]? = some stage ∨ ∃ c : Call, stage = c.stage := by
  obtain ⟨more, hc⟩ := h.calls
  rw [hc, List.getElem?_append] at hn
  split at hn
  · exact Or.inl hn
  · obtain ⟨c, -, hc⟩ := List.mem_map.mp (List.mem_of_getElem? hn)
    exact Or.inr ⟨c, hc.symm⟩

theorem Aside.mem_cases (h : Aside r r') (hm : stage ∈ r'.calls) : stage ∈ r.calls ∨ ∃ c : Call, stage = c.stage := by
  obtain ⟨n, hn⟩ := List.getElem?_of_mem hm
  rcases h.getElem?_cases hn with hn | hc
  · exact Or.inl (List.mem_of_getElem? hn)
  · exact Or.inr hc

end

section
variable [Grammars] {d : Document} {setup : Setup} {r r' : Run} {n m : Nat} {stage stage' other : Stage}

theorem Advances.mem (h : Advances d n stage stage' r r') : stage ∈ r.calls := List.mem_of_getElem? h.found

theorem Advances.getElem?_self (h : Advances d n stage stage' r r') : r'.calls[n]? = some stage' := by
  rw [h.calls, List.getElem?_set_self (List.getElem?_eq_some_iff.mp h.found).1]

theorem Advances.getElem?_ne (h : Advances d n stage stage' r r') (hm : m ≠ n) : r'.calls[m]? = r.calls[m]? := by
  rw [h.calls, List.getElem?_set_ne (Ne.symm hm)]

theorem Advances.mem_cases (h : Advances d n stage stage' r r') (ho : other ∈ r'.calls) :
    other ∈ r.calls ∨ other = stage' := by
  rw [h.calls] at ho
  exact List.mem_or_eq_of_mem_set ho

theorem Acts.move? (h : Acts setup r stage r' stage') (hn : r.calls[n]? = some stage) :
    r.move? setup (.advance n) = some { r' with calls := r.calls.set n stage' } := by
  simp only [Run.move?, hn, h.advance?, h.passed.calls, Option.bind_eq_bind, Option.bind_some, Option.pure_def]

theorem Acts.of_move? (h : r.move? setup (.advance n) = some r') (hn : r.calls[n]? = some stage) :
    ∃ r₁ stage', Acts setup r stage r₁ stage' ∧ r' = { r₁ with calls := r.calls.set n stage' } := by
  simp only [Run.move?, hn, Option.bind_eq_bind, Option.bind_some, Option.bind_eq_some_iff, Option.pure_def,
    Option.some.injEq] at h
  obtain ⟨⟨r₁, stage'⟩, hadv, rfl⟩ := h
  have acts := Acts.of_advance? hadv
  exact ⟨r₁, stage', acts, by rw [acts.passed.calls]⟩

theorem Acts.advances (h : Acts setup r stage r' stage') (hn : r.calls[n]? = some stage) :
    Advances setup.document n stage stage' r { r' with calls := r.calls.set n stage' } :=
  ⟨hn, h.passed.effect, rfl, h.passed.endings⟩

/-- A call that goes on is at a stage and does what can be done there. -/
theorem move?_acts (h : r.move? setup (.advance n) = some r') :
    ∃ stage stage' r₁, Advances setup.document n stage stage' r r' ∧ Acts setup r stage r₁ stage' ∧
      r' = { r₁ with calls := r.calls.set n stage' } := by
  cases hn : r.calls[n]? with
  | none =>
    simp only [move?, hn, Option.bind_eq_bind, Option.bind_none] at h
    cases h
  | some stage =>
    obtain ⟨r₁, stage', acts, rfl⟩ := Acts.of_move? h hn
    exact ⟨stage, stage', r₁, acts.advances hn, acts, rfl⟩

theorem move?_advance (h : r.move? setup (.advance n) = some r') :
    ∃ stage stage', Advances setup.document n stage stage' r r' := by
  obtain ⟨stage, stage', -, advances, -⟩ := move?_acts h
  exact ⟨stage, stage', advances⟩

theorem Advances.of_move? (h : r.move? setup (.advance n) = some r') (hn : r.calls[n]? = some stage) :
    ∃ stage', Advances setup.document n stage stage' r r' := by
  obtain ⟨r₁, stage', acts, rfl⟩ := Acts.of_move? h hn
  exact ⟨stage', acts.advances hn⟩

/-- A move is a passage or happens beside the calls that are there. -/
theorem move?_cases {m : Move} (h : r.move? setup m = some r') :
    r.passage? m = none ∧ Aside r r' ∨
    ∃ n stage stage', r.passage? m = some ⟨n, stage, r.session⟩ ∧ Advances setup.document n stage stage' r r' := by
  have aside : ∀ {r'' : Run}, r''.session = r.session → r''.calls = r.calls → r''.endings = r.endings →
      Aside r r'' := fun hs hc he => ⟨hs, ⟨[], by rw [hc]; exact (List.append_nil _).symm⟩, he⟩
  cases m with
  | call c =>
    obtain rfl := Option.some.inj h
    exact Or.inl ⟨rfl, rfl, ⟨[c], rfl⟩, rfl⟩
  | advance n =>
    obtain ⟨stage, stage', advances⟩ := move?_advance h
    refine Or.inr ⟨n, stage, stage', ?_, advances⟩
    simp only [passage?, advances.found, Option.map_some]
  | deliver n =>
    simp only [move?] at h
    split at h
    · split at h
      · obtain rfl := Option.some.inj h
        exact Or.inl ⟨rfl, aside rfl rfl rfl⟩
      · cases h
    · cases h
  | cache m =>
    obtain ⟨c, -, rfl⟩ := Option.map_eq_some_iff.mp h
    exact Or.inl ⟨rfl, aside rfl rfl rfl⟩
  | tick =>
    obtain rfl := Option.some.inj h
    exact Or.inl ⟨rfl, aside rfl rfl rfl⟩

end

namespace Reaches
variable [Grammars] {setup : Setup} {r₀ r₁ r₂ r : Run}

theorem trans {log log' : List Passage} (h : Reaches setup r₀ log r₁) (h' : Reaches setup r₁ log' r₂) :
    Reaches setup r₀ (log ++ log') r₂ := by
  induction h' with
  | refl => rwa [List.append_nil]
  | step m _ hm ih => rw [← List.append_assoc]; exact ih.step m hm

theorem of_follow? {log : List Passage} (ms : List Move) (h : r₀.follow? setup ms = some (log, r)) :
    Reaches setup r₀ log r := by
  induction ms generalizing r₀ log with
  | nil =>
    obtain ⟨rfl, rfl⟩ := Prod.mk.inj (Option.some.inj h)
    exact refl
  | cons m ms ih =>
    simp only [follow?, Option.bind_eq_bind, Option.bind_eq_some_iff, Option.pure_def, Option.some.injEq,
      Prod.mk.injEq] at h
    obtain ⟨r₁, hm, ⟨log', r'⟩, h', rfl, rfl⟩ := h
    have first := refl.step m hm
    rw [List.nil_append] at first
    exact first.trans (ih h')

/-- Induction on a run by what happens in it: a passage, or something beside the calls. -/
@[elab_as_elim]
theorem by_passages {motive : (log : List Passage) → (r : Run) → Reaches setup r₀ log r → Prop}
    (start : motive [] r₀ refl)
    (aside : ∀ {log r r'} (h : Reaches setup r₀ log r) (h' : Reaches setup r₀ log r'), Aside r r' →
      motive log r h → motive log r' h')
    (passage : ∀ {log r r' n stage stage'} (h : Reaches setup r₀ log r)
      (h' : Reaches setup r₀ (log ++ [⟨n, stage, r.session⟩]) r'), Advances setup.document n stage stage' r r' →
      motive log r h → motive (log ++ [⟨n, stage, r.session⟩]) r' h')
    {log : List Passage} {r : Run} (h : Reaches setup r₀ log r) : motive log r h := by
  induction h with
  | refl => exact start
  | @step log r r' m hr hm ih =>
    rcases move?_cases hm with ⟨hp, beside⟩ | ⟨n, stage, stage', hp, advances⟩
    · have of_same : ∀ {log'} (h' : Reaches setup r₀ log' r'), log' = log → motive log' r' h' := by
        rintro log' h' rfl
        exact aside hr h' beside ih
      exact of_same _ (by rw [hp, Option.toList_none, List.append_nil])
    · have of_more : ∀ {log'} (h' : Reaches setup r₀ log' r'), log' = log ++ [⟨n, stage, r.session⟩] →
          motive log' r' h' := by
        rintro log' h' rfl
        exact passage hr h' advances ih
      exact of_more _ (by rw [hp, Option.toList_some])

/-- A run can be taken apart before and after each passage of its log. -/
theorem split {before after : List Passage} {p : Passage} (h : Reaches setup r₀ (before ++ p :: after) r) :
    ∃ r₁ r₂ stage', Reaches setup r₀ before r₁ ∧ p.session = r₁.session ∧
      Advances setup.document p.call p.stage stage' r₁ r₂ ∧ Reaches setup r₀ (before ++ [p]) r₂ ∧
      Reaches setup r₂ after r := by
  -- The run grows at its end, so that `p` is the last passage or the log before it has it already.
  generalize hlog : before ++ p :: after = log at h
  induction h generalizing after with
  | refl => simp at hlog
  | @step log r r' m hr hm ih =>
    have last := hr.step m hm
    rcases move?_cases hm with ⟨hp, -⟩ | ⟨n, stage, stage', hp, advances⟩
    · rw [hp, Option.toList_none, List.append_nil] at hlog
      obtain ⟨r₁, r₂, stage', h₁, hs, advances, h₂, hrest⟩ := ih hlog
      have := hrest.step m hm
      rw [hp, Option.toList_none, List.append_nil] at this
      exact ⟨r₁, r₂, stage', h₁, hs, advances, h₂, this⟩
    · rw [hp, Option.toList_some] at hlog last
      rcases List.eq_nil_or_concat after with rfl | ⟨after, q, rfl⟩
      · obtain ⟨rfl, hq⟩ := List.append_inj' hlog rfl
        obtain rfl := (List.cons.inj hq).1
        exact ⟨r, r', stage', hr, rfl, advances, last, refl⟩
      · rw [List.concat_eq_append, ← List.cons_append, ← List.append_assoc] at hlog
        obtain ⟨hlog', hq⟩ := List.append_inj' hlog rfl
        obtain ⟨r₁, r₂, stage', h₁, hs, advances, h₂, hrest⟩ := ih hlog'
        have := hrest.step m hm
        rw [hp, Option.toList_some, ← hq] at this
        exact ⟨r₁, r₂, stage', h₁, hs, advances, h₂, List.concat_eq_append ▸ this⟩

/-- What holds of the session at first and is kept by every effect holds of it ever after. -/
theorem session_of_effect {P : Session → Prop} (h₀ : P r₀.session)
    (keep : ∀ {s stage s' stage'}, Effect setup.document s stage s' stage' → P s → P s') {log : List Passage}
    (h : Reaches setup r₀ log r) : P r.session := by
  induction h using Reaches.by_passages with
  | start => exact h₀
  | aside _ _ beside ih =>
    rw [beside.session]
    exact ih
  | passage _ _ advances ih => exact keep advances.effect ih

/-- A call that is done goes through no section any more. -/
theorem not_done {log : List Passage} {n : Nat} {t : Option Transition} (h : Reaches setup r₀ log r)
    (hn : r₀.calls[n]? = some (.done t)) : r.calls[n]? = some (.done t) ∧ ∀ p ∈ log, p.call ≠ n := by
  induction h using Reaches.by_passages with
  | start => exact ⟨hn, fun p hp => by cases hp⟩
  | aside _ _ beside ih => exact ⟨beside.getElem? ih.1, ih.2⟩
  | @passage log r r' k stage stage' _ _ advances ih =>
    obtain ⟨hdone, hlog⟩ := ih
    have hnk : n ≠ k := by
      rintro rfl
      have hk := advances.found
      rw [hdone] at hk
      obtain rfl := Option.some.inj hk
      exact absurd advances.effect.rank_lt (Nat.not_lt_zero _)
    refine ⟨by rw [advances.getElem?_ne hnk, hdone], fun p hp => ?_⟩
    rcases List.mem_append.mp hp with hp | hp
    · exact hlog p hp
    · obtain rfl := List.mem_singleton.mp hp
      exact Ne.symm hnk

end Reaches

end Run

end Questionnaire
