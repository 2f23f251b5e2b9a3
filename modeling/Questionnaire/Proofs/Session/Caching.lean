import Questionnaire.Grammars.Builtin
import Questionnaire.Proofs.Cache.Entry
import Questionnaire.Proofs.Cache.Removal
import Questionnaire.Proofs.Session.SingleFlight

/-!
# What a session leaves in its cache

A run of a session is, for its cache, a run of the cache: `Run.Cached` ties the two together. The answers that are to
be written are those that the session holds when it records one and when it comes to a page, in that order. The
removal at the end is the last thing that is asked for, since a session that has ended records nothing and comes to no
page; so what the store holds under the key of the document follows from what is known of caches.
-/

namespace Questionnaire

/-! ### Answers to be cached -/

/-- The answers that a section gives to the cache: those that the session holds once it has recorded one, and those
with which it comes to a page. -/
def Stage.held? (d : Document) (s : Session) : Stage → Option Answers
  | record id v => (s.record d id v).map fun recorded => recorded.1.answers
  | arrive (.page _) => some s.answers
  | _ => none

/-- The removal that the call waits for, by its generation. -/
def Stage.removal? : Stage → Option Nat
  | clear g _ => some g
  | _ => none

/-- The call has asked for the removal of the cached answers. -/
def Stage.isPast : Stage → Bool
  | clear _ _ => true
  | done (some t) => t.isEnd
  | _ => false

namespace Effect
variable [Grammars] {d : Document} {s s' : Session} {stage stage' : Stage}

theorem of_clear {g : Nat} {redirect : Option String} (h : Effect d s stage s' (.clear g redirect)) :
    ∃ answers due, stage = .tell answers redirect due := by
  generalize hstage : Stage.clear g redirect = stage' at h
  cases h with
  | told =>
    cases hstage
    exact ⟨_, _, rfl⟩
  | recorded => split at hstage <;> cases hstage
  | departed _ _ hd => subst hstage; cases hd
  | @arrived destination => cases destination <;> cases hstage
  | refused | rejected | stayed | returned | noted | settled | awaited | cleared => cases hstage

theorem of_isEnd {t : Transition} (h : Effect d s stage s' (.done (some t))) (ht : t.isEnd = true) :
    ∃ g redirect, stage = .clear g redirect := by
  generalize hstage : Stage.done (some t) = stage' at h
  cases h with
  | cleared => exact ⟨_, _, rfl⟩
  | refused _ hr =>
    cases hstage
    cases stage <;> cases hr <;> cases ht
  | recorded => split at hstage <;> cases hstage
  | departed _ _ hd => subst hstage; cases hd
  | @arrived destination =>
    cases destination with
    | page =>
      cases hstage
      cases ht
    | elsewhere | finish => cases hstage
  | rejected | stayed =>
    cases hstage
    cases ht
  | @returned _ snapshot =>
    cases hstage
    cases hp : d.pages[snapshot.index]? <;> rw [hp] at ht <;> cases ht
  | noted | settled | awaited | told => cases hstage

theorem of_isPast (h : Effect d s stage s' stage') (hpast : stage'.isPast = true) :
    (∃ answers redirect due, stage = .tell answers redirect due) ∨ ∃ g redirect, stage = .clear g redirect := by
  cases stage' with
  | clear g redirect =>
    obtain ⟨answers, due, rfl⟩ := h.of_clear
    exact Or.inl ⟨answers, redirect, due, rfl⟩
  | done t =>
    cases t with
    | none => cases hpast
    | some t => exact Or.inr (h.of_isEnd hpast)
  | record | depart | back | note | arrive | settle | await | tell => cases hpast

end Effect

namespace Run

/-- The answers that were given to the cache, in order. -/
def held (d : Document) (log : List Passage) : List Answers := log.filterMap fun p => p.stage.held? d p.session

/-- The cache of a run, by the clock of the run. -/
def timed (r : Run) : TimedCache := ⟨r.cache, r.clock⟩

/-- What the store holds for the document. -/
def entry (setup : Setup) (r : Run) : Option Answers := r.cache.store.get? setup.document.cacheKey

/-- What the section of a call asks of the cache: it gives the answers of the session to it, or asks for their removal
at the end, or nothing. A call that waits for the removal goes on when that stands in line no more. -/
inductive Asks (setup : Setup) (r : Run) : Stage → Stage → TimedCache → Prop
  | write {stage stage' answers} : stage.held? setup.document r.session = some answers →
      Asks setup r stage stage' (r.timed.schedule setup.window setup.document.cacheKey answers)
  | removal {answers redirect due} :
      Asks setup r (.tell answers redirect due) (.clear (r.cache.generation + 1) redirect)
        ⟨r.cache.clear setup.document.cacheKey, r.clock⟩
  | nothing {stage stage'} : stage.held? setup.document r.session = none → stage.ending? = none →
      (∀ g ∈ stage.removal?, r.cache.inLine g = false) → Asks setup r stage stage' r.timed

section
variable [Grammars] {setup : Setup} {r r' : Run} {stage stage' : Stage}

theorem timed_complete (setup : Setup) (c : Completion) (r : Run) : (r.complete setup c).1.timed = r.timed := by
  have hr : ((r.tell (.completed c)).reenter setup).timed = r.timed := by
    unfold reenter
    split <;> rfl
  unfold complete
  split
  · exact hr
  · split
    · exact hr
    · exact hr

omit [Grammars] in
/-- A section that neither gives answers to the cache nor has to do with their removal asks nothing. -/
theorem Asks.of_quiet (hheld : stage.held? setup.document r.session = none) (hending : stage.ending? = none)
    (hremoval : stage.removal? = none) : Asks setup r stage stage' r.timed := by
  refine nothing hheld hending fun g hg => ?_
  rw [hremoval] at hg
  cases hg

theorem Acts.asks (h : Acts setup r stage r' stage') : Asks setup r stage stage' r'.timed := by
  cases h with
  | refused ha hr =>
    cases stage with
    | record id v => exact .of_quiet (by rw [Stage.held?, Session.record_of_not_active ha]; rfl) rfl rfl
    | depart | back => exact .of_quiet rfl rfl rfl
    | note | arrive | settle | await | tell | clear | done => cases hr
  | recorded hi => exact .write (by rw [Stage.held?, Session.record_of_active hi]; rfl)
  | departed =>
    rw [leave, timed_complete]
    exact .of_quiet rfl rfl rfl
  | rejected | vacated | stayed | returned | strayed | noted | redirected | finished | settled | awaited =>
    exact .of_quiet rfl rfl rfl
  | reached => exact .write rfl
  | told => exact .removal
  | @cleared g redirect hline =>
    refine .nothing rfl rfl fun g' hg => ?_
    obtain rfl := Option.some.inj hg
    exact hline

end

/-! ### A session that has ended gives nothing to its cache -/

section
variable [Grammars] {setup : Setup} {store : Entries Answers} {given : Answers} {log : List Passage} {r r' : Run}
  {stage : Stage}

/-- A session that has not ended after a section had not ended before it. -/
theorem Regime.not_terminal_before {n : Nat} {stage' : Stage} (h : Regime r)
    (advances : Advances setup.document n stage stage' r r') (hp : r'.session.phase.isTerminal = false) :
    r.session.phase.isTerminal = false := by
  refine eq_false_of_ne_true fun hterm => ?_
  rw [Session.phase_of_core (h.core_of_isTerminal hterm advances), hterm] at hp
  cases hp

omit [Grammars] in
theorem Regime.isTerminal_of_tell {answers : Answers} {redirect : Option String} {due : Nat} (h : Regime r)
    (hk : .tell answers redirect due ∈ r.calls) : r.session.phase.isTerminal = true := by
  cases h with
  | resting _ hn | ended _ hn => exact absurd (hn _ hk) Bool.true_eq_false.mp
  | flying _ hm hd ho =>
    obtain ⟨n, hn⟩ := List.getElem?_of_mem hk
    obtain rfl := ho.eq_of_holds hn rfl
    rw [hn] at hm
    obtain rfl := Option.some.inj hm
    cases hd
  | closing hp => exact isTerminal_of_ending? hp

/-- Once the removal has been asked for, the session has ended. -/
theorem Reaches.isTerminal_of_isPast (h : Reaches setup (start setup store given) log r) :
    ∀ stage ∈ r.calls, stage.isPast = true → r.session.phase.isTerminal = true := by
  induction h using Reaches.by_passages with
  | start => exact nofun
  | aside _ _ beside ih =>
    intro stage hs hpast
    rw [beside.session]
    rcases beside.mem_cases hs with hs | ⟨c, rfl⟩
    · exact ih stage hs hpast
    · cases c <;> cases hpast
  | @passage log r r' n stage stage' h _ advances ih =>
    have regime := h.regime (Regime.start setup store given)
    intro other ho hpast
    -- The session had ended before the section, since only a call that was told of its end asks for the removal.
    have before : r.session.phase.isTerminal = true := by
      rcases advances.mem_cases ho with ho | rfl
      · exact ih other ho hpast
      · rcases advances.effect.of_isPast hpast with ⟨answers, redirect, due, rfl⟩ | ⟨g, redirect, rfl⟩
        · exact regime.isTerminal_of_tell advances.mem
        · exact ih _ advances.mem rfl
    rw [Session.phase_of_core (regime.core_of_isTerminal before advances)]
    exact before

/-- Answers are given to the cache only while the removal has not been asked for. -/
theorem Reaches.not_isPast_of_held (h : Reaches setup (start setup store given) log r) (hk : stage ∈ r.calls)
    {answers : Answers} (ha : stage.held? setup.document r.session = some answers) :
    ∀ other ∈ r.calls, other.isPast = false := by
  intro other ho
  refine eq_false_of_ne_true fun hpast => ?_
  have hterm := h.isTerminal_of_isPast other ho hpast
  cases stage with
  | record id v =>
    rw [Stage.held?, Session.record_of_not_active (not_active_of_isTerminal hterm)] at ha
    cases ha
  | arrive destination =>
    have hd := (h.regime (Regime.start setup store given)).destination?_eq_none
      (fun i hi => by rw [hi] at hterm; cases hterm) hk
    cases hd
  | depart | back | note | settle | await | tell | clear | done => cases ha

end

/-! ### The run of the cache -/

/-- The run of the cache in a run of a session: what was to be written are the answers that were given to it, and
what was asked for last is the removal, if a call has asked for it. Nothing but writes is asked for while the session
has not ended. -/
structure Cached (setup : Setup) (store : Entries Answers) (log : List Passage) (turns : List Cache.Event) (r : Run) :
    Prop where
  reaches : TimedCache.Reaches setup.window setup.conduct (.new store 0) turns r.timed
  given : (Cache.writes (Cache.issued turns)).map Write.answers = held setup.document log
  keyed : ∀ turn ∈ Cache.issued turns, turn.key = setup.document.cacheKey
  closing : ∀ g redirect, .clear g redirect ∈ r.calls → Cache.Closes setup.document.cacheKey turns g
  closed : ∀ t, .done (some t) ∈ r.calls → t.isEnd = true →
    ∃ g, Cache.Closes setup.document.cacheKey turns g ∧ .ended (.clear g setup.document.cacheKey) ∈ turns
  writing : r.session.phase.isTerminal = false → ∀ turn ∈ Cache.issued turns, ∃ w, turn = .write w
  undropped : ∀ o, .dropped o ∉ turns

namespace Cached
variable {setup : Setup} {store : Entries Answers} {given : Answers} {log : List Passage} {turns : List Cache.Event}
  {r r' : Run} {n : Nat} {stage stage' : Stage}

theorem start (setup : Setup) (store : Entries Answers) (given : Answers) :
    Cached setup store [] [] (Run.start setup store given) :=
  ⟨TimedCache.Reaches.refl, rfl, nofun, nofun, nofun, nofun, nofun⟩

/-- What is asked for next is like all that was asked for before. -/
theorem forall_issued_concat {P : Turn → Prop} {e : Cache.Event} {turn : Turn} (he : e.issued? = some turn)
    (hold : ∀ t ∈ Cache.issued turns, P t) (hnew : P turn) : ∀ t ∈ Cache.issued (turns ++ [e]), P t := by
  intro t ht
  rw [Cache.issued_concat, he] at ht
  rcases List.mem_append.mp ht with ht | ht
  · exact hold t ht
  · obtain rfl := List.mem_singleton.mp ht
    exact hnew

theorem undropped_concat {e : Cache.Event} (h : Cached setup store log turns r) (he : ∀ o, e ≠ .dropped o)
    (o : Option Write) :
    .dropped o ∉ turns ++ [e] := by
  intro hmem
  rcases List.mem_append.mp hmem with hmem | hmem
  · exact h.undropped o hmem
  · exact he o (List.mem_singleton.mp hmem).symm

/-- Calls that are made have asked for nothing yet. -/
theorem of_aside (h : Cached setup store log turns r) (beside : Aside r r') (ht : r'.timed = r.timed) :
    Cached setup store log turns r' := by
  refine ⟨ht ▸ h.reaches, h.given, h.keyed, fun g redirect hg => ?_, fun t hdone hend => ?_,
    beside.session ▸ h.writing, h.undropped⟩
  · rcases beside.mem_cases hg with hg | ⟨c, hc⟩
    · exact h.closing g redirect hg
    · cases c <;> cases hc
  · rcases beside.mem_cases hdone with hdone | ⟨c, hc⟩
    · exact h.closed t hdone hend
    · cases c <;> cases hc

/-- The cache goes on by itself, or time goes by. -/
theorem proceed {e : Cache.Event} {a : TimedCache.Act} (h : Cached setup store log turns r)
    (ha : r.timed.act? setup.window setup.conduct a = some (e, r'.timed)) (he : e.isUse = false)
    (hs : r'.session = r.session) (hcalls : r'.calls = r.calls) : Cached setup store log (turns ++ [e]) r' := by
  have hissued : Cache.issued (turns ++ [e]) = Cache.issued turns := by
    rw [Cache.issued_concat, Cache.Event.issued?_of_isUse he, Option.toList_none, List.append_nil]
  have hnone : ∀ w o, e ≠ .scheduled w o := by
    rintro w o rfl
    cases he
  have hkept : ∀ o, e ≠ .dropped o := by
    rintro o rfl
    cases he
  refine ⟨h.reaches.step a ha, hissued ▸ h.given, hissued ▸ h.keyed, fun g redirect hg => ?_, fun t ht hend => ?_,
    hs ▸ hissued ▸ h.writing, h.undropped_concat hkept⟩
  · exact (h.closing g redirect (hcalls ▸ hg)).concat hnone
  · obtain ⟨g, hcloses, hended⟩ := h.closed t (hcalls ▸ ht) hend
    exact ⟨g, hcloses.concat hnone, List.mem_append_left _ hended⟩

/-- A section gives the answers of the session to the cache. -/
theorem give [Grammars] {answers : Answers} (h : Cached setup store log turns r)
    (hr : Reaches setup (Run.start setup store given) log r) (advances : Advances setup.document n stage stage' r r')
    (ha : stage.held? setup.document r.session = some answers)
    (ht : r'.timed = r.timed.schedule setup.window setup.document.cacheKey answers) :
    Cached setup store (log ++ [⟨n, stage, r.session⟩])
      (turns ++ [.scheduled ⟨r.cache.generation + 1, setup.document.cacheKey, answers⟩ r.cache.waiting?]) r' := by
  have nobody : ∀ other ∈ r'.calls, other.isPast = false := by
    intro other ho
    rcases advances.mem_cases ho with ho | rfl
    · exact hr.not_isPast_of_held advances.mem ha other ho
    · refine eq_false_of_ne_true fun hpast => ?_
      rcases advances.effect.of_isPast hpast with ⟨_, _, _, rfl⟩ | ⟨_, _, rfl⟩
      · cases ha
      · cases ha
  have regime := hr.regime (Regime.start setup store given)
  refine ⟨h.reaches.step (.schedule setup.document.cacheKey answers) (by rw [ht]; rfl), ?_,
    forall_issued_concat rfl h.keyed rfl,
    fun g redirect hg => absurd (nobody _ hg) Bool.true_eq_false.mp,
    fun t hdone hend => absurd (nobody _ hdone) (ne_of_eq_of_ne hend Bool.true_eq_false.mp),
    fun hp => forall_issued_concat rfl (h.writing (regime.not_terminal_before advances hp)) ⟨_, rfl⟩,
    h.undropped_concat nofun⟩
  rw [Cache.issued_concat, held, Cache.filterMap_concat, ha, Cache.writes, List.filterMap_append, List.map_append]
  exact congrArg (· ++ [answers]) h.given

/-- At the end, a call asks for the removal. -/
theorem ask [Grammars] {answers : Answers} {redirect : Option String} {due : Nat} (h : Cached setup store log turns r)
    (regime : Regime r)
    (advances : Advances setup.document n (.tell answers redirect due) (.clear (r.cache.generation + 1) redirect) r r')
    (ht : r'.timed = ⟨r.cache.clear setup.document.cacheKey, r.clock⟩) :
    Cached setup store (log ++ [⟨n, .tell answers redirect due, r.session⟩])
      (turns ++ [.cleared (r.cache.generation + 1) setup.document.cacheKey r.cache.waiting?]) r' := by
  have hterm := regime.isTerminal_of_tell advances.mem
  refine ⟨h.reaches.step (.clear setup.document.cacheKey) (by rw [ht]; rfl), ?_, forall_issued_concat rfl h.keyed rfl,
    fun g redirect' hg => ?_, fun t hdone hend => ?_,
    fun hp => absurd (regime.not_terminal_before advances hp) (ne_of_eq_of_ne hterm Bool.true_eq_false.mp),
    h.undropped_concat nofun⟩
  · rw [Cache.issued_concat, held, Cache.filterMap_concat, Cache.writes, List.filterMap_append, List.map_append]
    exact congrArg (· ++ []) h.given
  · rcases advances.mem_cases hg with hg | hg
    · exact (h.closing g redirect' hg).concat nofun
    · obtain ⟨rfl, -⟩ := Stage.clear.inj hg
      exact ⟨turns, _, [], rfl, nofun⟩
  · rcases advances.mem_cases hdone with hdone | hdone
    · obtain ⟨g, hcloses, hended⟩ := h.closed t hdone hend
      exact ⟨g, hcloses.concat nofun, List.mem_append_left _ hended⟩
    · cases hdone

/-- A section leaves the cache alone. -/
theorem leave [Grammars] (h : Cached setup store log turns r) (regime : Regime r)
    (advances : Advances setup.document n stage stage' r r')
    (ha : stage.held? setup.document r.session = none) (ht : r'.timed = r.timed)
    (hending : stage.ending? = none) (hremoval : ∀ g ∈ stage.removal?, r.cache.inLine g = false) :
    Cached setup store (log ++ [⟨n, stage, r.session⟩]) turns r' := by
  refine ⟨ht ▸ h.reaches, ?_, h.keyed, fun g redirect hg => ?_, fun t hdone hend => ?_,
    fun hp => h.writing (regime.not_terminal_before advances hp), h.undropped⟩
  · rw [held, Cache.filterMap_concat, ha, Option.toList_none, List.append_nil]
    exact h.given
  · rcases advances.mem_cases hg with hg | rfl
    · exact h.closing g redirect hg
    · obtain ⟨answers, due, rfl⟩ := advances.effect.of_clear
      cases hending
  · rcases advances.mem_cases hdone with hdone | rfl
    · exact h.closed t hdone hend
    · -- The removal stands in line no more, so it has been carried out.
      obtain ⟨g, redirect, rfl⟩ := advances.effect.of_isEnd hend
      have hcloses := h.closing g redirect advances.mem
      exact ⟨g, hcloses, h.reaches.orderly.ended_of_not_inLine hcloses.mem_issued (hremoval g rfl)⟩

/-- Whatever happens in a run of a session is at most one event for its cache. -/
theorem move [Grammars] (h : Cached setup store log turns r) (hr : Reaches setup (Run.start setup store given) log r)
    {m : Move} (hm : r.move? setup m = some r') :
    ∃ e : Option Cache.Event, Cached setup store (log ++ (r.passage? m).toList) (turns ++ e.toList) r' := by
  have beside : r.passage? m = none → ∀ e : Option Cache.Event, Cached setup store log (turns ++ e.toList) r' →
      ∃ e : Option Cache.Event, Cached setup store (log ++ (r.passage? m).toList) (turns ++ e.toList) r' := by
    intro hp e h'
    rw [hp, Option.toList_none, List.append_nil]
    exact ⟨e, h'⟩
  cases m with
  | call c =>
    obtain rfl := Option.some.inj hm
    refine beside rfl none ?_
    rw [Option.toList_none, List.append_nil]
    exact h.of_aside ⟨rfl, ⟨[c], rfl⟩, rfl⟩ rfl
  | deliver k =>
    refine beside rfl none ?_
    rw [Option.toList_none, List.append_nil]
    simp only [move?] at hm
    split at hm
    · split at hm
      · obtain rfl := Option.some.inj hm
        exact h.of_aside ⟨rfl, ⟨[], (List.append_nil _).symm⟩, rfl⟩ rfl
      · cases hm
    · cases hm
  | cache m =>
    obtain ⟨c, hc, rfl⟩ := Option.map_eq_some_iff.mp hm
    obtain ⟨e, he, -⟩ := Cache.move?_change setup.window hc
    have ha : r.timed.act? setup.window setup.conduct (.move m) = some (e, ⟨c, r.clock⟩) := by
      simp only [TimedCache.act?, timed, he, hc, Option.bind_eq_bind, Option.bind_some, Option.pure_def]
    exact beside rfl (some e) (h.proceed ha (Cache.event?_isUse he).1 rfl rfl)
  | tick =>
    obtain rfl := Option.some.inj hm
    exact beside rfl (some .ticked) (h.proceed (a := .tick) rfl rfl rfl rfl)
  | advance k =>
    obtain ⟨stage, stage', r₁, advances, acts, hr'⟩ := move?_acts hm
    have asks : Asks setup r stage stage' r'.timed := by
      rw [hr']
      exact acts.asks
    have regime := hr.regime (Regime.start setup store given)
    rw [passage?, advances.found, Option.map_some, Option.toList_some]
    generalize ht : r'.timed = t at asks
    cases asks with
    | write ha => exact ⟨some _, h.give hr advances ha ht⟩
    | removal => exact ⟨some _, h.ask regime advances ht⟩
    | nothing ha hending hremoval =>
      refine ⟨none, ?_⟩
      rw [Option.toList_none, List.append_nil]
      exact h.leave regime advances ha ht hending hremoval

end Cached

theorem Reaches.cached [Grammars] {setup : Setup} {store : Entries Answers} {given : Answers} {log : List Passage}
    {r : Run} (h : Reaches setup (start setup store given) log r) : ∃ turns, Cached setup store log turns r := by
  induction h with
  | refl => exact ⟨[], Cached.start setup store given⟩
  | step m hr hm ih =>
    obtain ⟨turns, hc⟩ := ih
    obtain ⟨e, hc'⟩ := hc.move hr hm
    exact ⟨_, hc'⟩

/-! ### What the store holds -/

/-- The runs that can come of one, with the log of the passages and what the store held for the document at every
moment on the way. -/
inductive Shows [Grammars] (setup : Setup) (r₀ : Run) : List Passage → List (Option Answers) → Run → Prop
  | start : Shows setup r₀ [] [r₀.entry setup] r₀
  | step {log shown r r'} (m : Move) : Shows setup r₀ log shown r → r.move? setup m = some r' →
      Shows setup r₀ (log ++ (r.passage? m).toList) (shown ++ [r'.entry setup]) r'

theorem Shows.reaches [Grammars] {setup : Setup} {r₀ r : Run} {log : List Passage} {shown : List (Option Answers)}
    (h : Shows setup r₀ log shown r) : Reaches setup r₀ log r := by
  induction h with
  | start => exact Reaches.refl
  | step m _ hm ih => exact ih.step m hm

theorem Shows.last [Grammars] {setup : Setup} {r₀ r : Run} {log : List Passage} {shown : List (Option Answers)}
    (h : Shows setup r₀ log shown r) : shown.getLast? = some (r.entry setup) := by
  cases h with
  | start => rfl
  | step => exact List.getLast?_concat

theorem Shows.extend [Grammars] {setup : Setup} {r₀ r r' : Run} {log log' : List Passage}
    {shown : List (Option Answers)} (h : Shows setup r₀ log shown r) (h' : Reaches setup r log' r') :
    ∃ more, Shows setup r₀ (log ++ log') (shown ++ more) r' := by
  induction h' with
  | refl => exact ⟨[], by rwa [List.append_nil, List.append_nil]⟩
  | @step log' r' r'' m _ hm ih =>
    obtain ⟨more, hshows⟩ := ih
    refine ⟨more ++ [r''.entry setup], ?_⟩
    rw [← List.append_assoc, ← List.append_assoc]
    exact hshows.step m hm

section
variable [Grammars] {setup : Setup} {store : Entries Answers} {given : Answers} {log : List Passage}
  {turns : List Cache.Event}
  {shown : List (Option Answers)} {r : Run}

omit [Grammars] in
/-- What the store holds for the document is what the latest turn has brought. -/
theorem Cached.getLast?_entries (works : ∀ turn, setup.conduct.works turn = true)
    (h : Cached setup store log turns r) :
    (Cache.entries (store.get? setup.document.cacheKey) turns).getLast? = some (r.entry setup) := by
  have hstore : r.cache.store = Cache.applyAll (Cache.carriedOut turns) store := h.reaches.store_eq works
  rw [entry, hstore]
  refine Cache.getLast?_entries store fun turn hturn => ?_
  exact h.keyed turn (h.reaches.orderly.mem_issued_iff.mpr (Or.inl hturn))

open Classical in
/-- What was seen in the store is what the turns have brought, for some time each. -/
theorem Shows.entries (works : ∀ turn, setup.conduct.works turn = true)
    (h : Shows setup (Run.start setup store given) log shown r) : ∃ turns, Cached setup store log turns r ∧
      shown.destutter (· ≠ ·) = (Cache.entries (store.get? setup.document.cacheKey) turns).destutter (· ≠ ·) ∧
      ∀ seen ∈ shown, seen ∈ Cache.entries (store.get? setup.document.cacheKey) turns := by
  induction h with
  | start => exact ⟨[], Cached.start setup store given, rfl, fun _ hs => hs⟩
  | @step log shown r r' m hr hm ih =>
    obtain ⟨turns, hc, hsame, hseen⟩ := ih
    obtain ⟨e, hc'⟩ := hc.move hr.reaches hm
    have now := hc.getLast?_entries works
    have next := hc'.getLast?_entries works
    refine ⟨_, hc', ?_⟩
    rw [Cache.entries_append] at next ⊢
    -- After the step, what is seen is what was seen before it, or what the turn has brought that the store ended.
    rw [Cache.destutter_concat hr.last, hsame]
    cases hbrought : (e.bind Cache.Event.ended?).map Turn.brings with
    | none =>
      rw [hbrought, Option.toList_none, List.append_nil] at next
      have same : r.entry setup = r'.entry setup := Option.some.inj (now.symm.trans next)
      rw [if_pos same, Option.toList_none, List.append_nil, List.append_nil]
      refine ⟨rfl, fun seen hs => ?_⟩
      rcases List.mem_append.mp hs with hs | hs
      · exact hseen seen hs
      · rw [List.mem_singleton.mp hs, ← same]
        exact List.mem_of_getLast? now
    | some brought =>
      rw [hbrought, Option.toList_some, List.getLast?_concat] at next
      obtain rfl : brought = r'.entry setup := Option.some.inj next
      rw [Option.toList_some, Cache.destutter_concat now]
      refine ⟨rfl, fun seen hs => ?_⟩
      exact List.mem_append.mpr ((List.mem_append.mp hs).imp_left (hseen seen))

open Classical in
/-- In every run of a session over a store that never fails and that nobody else uses, at whatever pace. What the store
holds for the document is at every moment what was found there, nothing, or answers that the session held when it
recorded an answer or came to a page; it holds such answers one after the other in the order in which the session held
them. And from when a call has been answered that the session has ended, it holds nothing, ever after. -/
theorem finished_leaves_nothing (works : ∀ turn, setup.conduct.works turn = true)
    (h : Shows setup (Run.start setup store given) log shown r) :
    (∀ seen ∈ shown, seen = store.get? setup.document.cacheKey ∨ seen = none ∨
      ∃ answers ∈ held setup.document log, seen = some answers) ∧
    (∃ rest, shown.destutter (· ≠ ·) = store.get? setup.document.cacheKey :: rest ∧
      rest.reduceOption.Sublist (held setup.document log)) ∧
    ∀ (n : Nat) (t : Transition), r.calls[n]? = some (.done (some t)) → t.isEnd = true →
      ∀ later r', Reaches setup r later r' → r'.entry setup = none := by
  obtain ⟨turns, hc, hsame, hseen⟩ := h.entries works
  have order : ((Cache.carriedOut turns).map Turn.brings).reduceOption.Sublist (held setup.document log) := by
    rw [Cache.reduceOption_brings, ← hc.given]
    have orderly := hc.reaches.orderly
    exact (((List.sublist_append_left _ _).trans orderly.order).filterMap _).map _
  refine ⟨fun seen hs => ?_, ?_, fun n t hn hend later r' hlater => ?_⟩
  · rcases List.mem_cons.mp (hseen seen hs) with rfl | hbrought
    · exact Or.inl rfl
    · cases seen with
      | none => exact Or.inr (Or.inl rfl)
      | some answers =>
        exact Or.inr (Or.inr ⟨answers, order.subset (List.reduceOption_mem_iff.mpr hbrought), rfl⟩)
  · obtain ⟨rest, hrest, hsub⟩ := Cache.destutter_cons (store.get? setup.document.cacheKey)
      ((Cache.carriedOut turns).map Turn.brings)
    exact ⟨rest, hsame.trans hrest, (hsub.filterMap id).trans order⟩
  · obtain ⟨turns', hc'⟩ := (h.reaches.trans hlater).cached
    obtain ⟨g, hcloses, hended⟩ := hc'.closed t (List.mem_of_getElem? (hlater.not_done hn).1) hend
    exact hc'.reaches.get?_eq_none_of_removed works hcloses hended

end

/-- An empty page, and a store that takes its time. -/
def unhurried : Setup where
  document := { pages := [{ id := "first" }] }
  window := 1
  conduct := TimedCache.slow

open scoped Grammars in
/-- An answer comes to the store while the session is already ending, and is removed again. -/
theorem finished_leaves_nothing_of_late_write : ∃ log shown r,
    Shows unhurried (Run.start unhurried ∅ ∅) log shown r ∧
    some ((∅ : Answers).insert "question" .null) ∈ shown ∧ r.calls[1]? = some (.done (some .completed)) ∧
    r.entry unhurried = none := by
  obtain ⟨log, r₁, h₁, hentry, log', r, h, hdone⟩ : ∃ log r₁, Reaches unhurried (Run.start unhurried ∅ ∅) log r₁ ∧
      r₁.entry unhurried = some ((∅ : Answers).insert "question" .null) ∧
      ∃ log' r, Reaches unhurried r₁ log' r ∧ r.calls[1]? = some (.done (some .completed)) :=
    ⟨_, _, Reaches.of_follow? [.call (.set "question" .null), .advance 0, .tick, .cache .queue, .cache .serve,
      .call (.next ∅), .advance 1, .advance 1, .advance 1, .advance 1, .advance 1, .tick, .cache .finish] rfl, rfl,
      _, _, Reaches.of_follow? [.cache .serve, .tick, .cache .finish, .advance 1] rfl, rfl⟩
  obtain ⟨shown, hshown⟩ := Shows.start.extend h₁
  obtain ⟨more, hmore⟩ := hshown.extend h
  obtain ⟨-, -, final⟩ := finished_leaves_nothing (fun _ => rfl) hmore
  refine ⟨_, _, r, hmore, ?_, hdone, final 1 _ hdone rfl _ r Reaches.refl⟩
  exact List.mem_append_left _ (List.mem_of_getLast? (hshown.last.trans (congrArg some hentry)))

end Run

end Questionnaire
