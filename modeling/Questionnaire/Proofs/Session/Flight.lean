import Questionnaire.Proofs.Session.Log

/-!
# One call at a time holds a session

A call that has left a page holds the session until it has arrived at the next page or has told the observer of the
end. However the sections of the calls are ordered, a session is in one of four regimes: a page is active and no call
holds the session, one call is under way between two pages, one call is to report the end, or the end has been
reported. `Run.single_flight` says what follows for transitions, refusals and the end.
-/

namespace Questionnaire

/-- The address at which a session has ended, if it has ended. -/
def Phase.ending? : Phase → Option (Option String)
  | redirecting url => some (some url)
  | completed => some none
  | _ => none

/-- The address of the end that a call is to report. -/
def Stage.redirect? : Stage → Option (Option String)
  | settle redirect | await _ _ redirect | tell _ redirect _ => some redirect
  | _ => none

/-- The answers that a call has taken over for its report. -/
def Stage.taken? : Stage → Option Answers
  | await _ answers _ | tell answers _ _ => some answers
  | _ => none

/-- A call at this stage holds the session. -/
def Stage.holds (stage : Stage) : Bool := stage.destination?.isSome || stage.redirect?.isSome

namespace Stage

theorem holds_of_destination? {stage : Stage} (h : stage.destination?.isSome) : stage.holds = true := by
  simp only [holds, h, Bool.true_or]

theorem redirect?_of_holds {stage : Stage} (h : stage.holds = true) (hd : stage.destination? = none) :
    stage.redirect?.isSome := by
  simpa only [holds, hd, Option.isSome_none, Bool.false_or] using h

theorem ending?_of_not_holds {stage : Stage} (h : stage.holds = false) : stage.ending? = none := by
  cases stage <;> first | rfl | simp [holds, redirect?] at h

theorem ending?_of_destination? {stage : Stage} (h : stage.destination?.isSome) : stage.ending? = none := by
  cases stage <;> first | rfl | simp [destination?] at h

theorem not_holds_call (c : Call) : c.stage.holds = false := by
  cases c <;> rfl

end Stage

/-! ### Effects by what the call holds -/

namespace Effect
variable [Grammars] {d : Document} {s s' : Session} {stage stage' : Stage}

/-- While no page is active, a call that does not hold the session changes nothing and comes to hold nothing. -/
theorem of_idle (h : Effect d s stage s' stage') (hs : stage.holds = false) (hp : s.phase.isActive = false) :
    s' = s ∧ stage'.holds = false := by
  cases h with
  | refused | cleared => exact ⟨rfl, rfl⟩
  | recorded hi | rejected hi | departed hi | stayed hi | returned hi => simp [hi, Phase.isActive] at hp
  | noted | arrived | settled | awaited | told => simp [Stage.holds, Stage.destination?, Stage.redirect?] at hs

/-- While a page is active, a call keeps a page active or leaves it. -/
theorem of_active {i : Nat} (h : Effect d s stage s' stage') (hs : stage.holds = false) (hp : s.phase = .active i) :
    s'.phase.isActive = true ∧ stage'.holds = false ∧
        (∀ submitted, stage = .depart submitted → validate (s.visible d i) (s.answers.extend submitted) ≠ none) ∨
      ∃ submitted, stage = .depart submitted ∧ validate (s.visible d i) (s.answers.extend submitted) = none ∧
        s' = s.left d i submitted ∧ stage'.destination? = some (s.toward d i submitted) := by
  cases h with
  | refused ha => simp [hp, Phase.isActive] at ha
  | recorded =>
    refine Or.inl ⟨by rw [hp]; rfl, ?_, fun _ he => by cases he⟩
    split <;> rfl
  | rejected hi hv =>
    rw [hp] at hi
    cases hi
    refine Or.inl ⟨by rw [hp]; rfl, rfl, fun _ he => ?_⟩
    cases he
    rw [hv]
    exact Option.some_ne_none _
  | departed hi hv hd =>
    rw [hp] at hi
    cases hi
    exact Or.inr ⟨_, rfl, hv, rfl, hd⟩
  | stayed => exact Or.inl ⟨by rw [hp]; rfl, rfl, fun _ he => by cases he⟩
  | returned => exact Or.inl ⟨rfl, rfl, fun _ he => by cases he⟩
  | cleared => exact Or.inl ⟨by rw [hp]; rfl, rfl, fun _ he => by cases he⟩
  | noted | arrived | settled | awaited | told => simp [Stage.holds, Stage.destination?, Stage.redirect?] at hs

/-- A call under way stays under way, with the session as it was, or arrives. -/
theorem of_destination? {destination : Destination} (h : Effect d s stage s' stage')
    (hd : stage.destination? = some destination) :
    s'.core = s.core ∧ stage'.destination? = some destination ∧ stage ≠ .arrive destination ∨
      stage = .arrive destination ∧ s' = s.arrive destination ∧ stage' = destination.stage := by
  cases h with
  | noted =>
    obtain rfl := Option.some.inj hd
    exact Or.inl ⟨rfl, rfl, fun he => by cases he⟩
  | arrived =>
    obtain rfl := Option.some.inj hd
    exact Or.inr ⟨rfl, rfl, rfl⟩
  | refused _ hr => cases stage <;> simp [Stage.destination?, Stage.refusal?] at hd hr
  | recorded | rejected | departed | stayed | returned | settled | awaited | told | cleared => cases hd

theorem core_of_redirect? (h : Effect d s stage s' stage') (hr : stage.redirect?.isSome) :
    s'.core = s.core ∧ stage'.destination? = none := by
  cases h with
  | settled | awaited | told => exact ⟨rfl, rfl⟩
  | refused _ h' => cases stage <;> simp [Stage.redirect?, Stage.refusal?] at hr h'
  | recorded | rejected | departed | stayed | returned | noted | arrived | cleared => cases hr

/-- A call that is to report the end takes over the answers and then reports them. -/
theorem of_redirect? {redirect : Option String} (h : Effect d s stage s' stage')
    (hr : stage.redirect? = some redirect) (ht : ∀ a ∈ stage.taken?, a = s.answers) :
    stage.ending? = none ∧ stage'.redirect? = some redirect ∧ (∀ a ∈ stage'.taken?, a = s.answers) ∨
      stage.ending? = some (s.answers, redirect) ∧ stage'.holds = false := by
  cases h with
  | settled =>
    obtain rfl := Option.some.inj hr
    exact Or.inl ⟨rfl, rfl, fun a ha => (Option.some.inj ha).symm⟩
  | awaited =>
    obtain rfl := Option.some.inj hr
    exact Or.inl ⟨rfl, rfl, ht⟩
  | @told answers =>
    obtain rfl := Option.some.inj hr
    exact Or.inr ⟨by rw [← ht answers rfl]; rfl, rfl⟩
  | refused _ h' => cases stage <;> simp [Stage.redirect?, Stage.refusal?] at hr h'
  | recorded | rejected | departed | stayed | returned | noted | arrived | cleared => cases hr

end Effect

namespace Run

/-! ### Regimes -/

/-- No call holds the session, or only the one of that number does. -/
def OnlyHolder (r : Run) (n : Nat) : Prop := ∀ m other, m ≠ n → r.calls[m]? = some other → other.holds = false

/-- Where a session stands between its calls. -/
inductive Regime (r : Run) : Prop
  | resting {i} : r.session.phase = .active i → (∀ stage ∈ r.calls, stage.holds = false) → r.endings = [] → Regime r
  | flying {i n stage} : r.session.phase = .transitioning i → r.calls[n]? = some stage →
      stage.destination?.isSome → r.OnlyHolder n → r.endings = [] → Regime r
  | closing {redirect n stage} : r.session.phase.ending? = some redirect → r.calls[n]? = some stage →
      stage.redirect? = some redirect → (∀ a ∈ stage.taken?, a = r.session.answers) → r.OnlyHolder n →
      r.endings = [] → Regime r
  | ended {redirect} : r.session.phase.ending? = some redirect → (∀ stage ∈ r.calls, stage.holds = false) →
      r.endings = [(r.session.answers, redirect)] → Regime r

theorem not_active_of_ending? {p : Phase} {redirect : Option String} (h : p.ending? = some redirect) :
    p.isActive = false := by
  cases p <;> simp [Phase.ending?, Phase.isActive] at h ⊢

section
variable [Grammars] {d : Document} {r r' : Run} {k n : Nat} {stage stage' : Stage}

omit [Grammars] in
theorem Aside.not_holds (h : Aside r r') (hn : ∀ stage ∈ r.calls, stage.holds = false) :
    ∀ stage ∈ r'.calls, stage.holds = false := by
  intro stage hs
  rcases h.mem_cases hs with hs | ⟨c, rfl⟩
  · exact hn stage hs
  · exact Stage.not_holds_call c

theorem Advances.not_holds (h : Advances d n stage stage' r r') (hn : ∀ stage ∈ r.calls, stage.holds = false)
    (hs : stage'.holds = false) : ∀ stage ∈ r'.calls, stage.holds = false := by
  intro other ho
  rcases h.mem_cases ho with ho | rfl
  · exact hn other ho
  · exact hs

omit [Grammars] in
theorem OnlyHolder.eq_of_holds (ho : r.OnlyHolder n) (hk : r.calls[k]? = some stage) (hs : stage.holds = true) :
    k = n := by
  by_cases e : k = n
  · exact e
  · rw [ho k stage e hk] at hs
    cases hs

omit [Grammars] in
theorem OnlyHolder.aside (ho : r.OnlyHolder n) (h : Aside r r') : r'.OnlyHolder n := by
  intro m other hm hother
  rcases h.getElem?_cases hother with hother | ⟨c, rfl⟩
  · exact ho m other hm hother
  · exact Stage.not_holds_call c

theorem OnlyHolder.advances_self (ho : r.OnlyHolder n) (h : Advances d n stage stage' r r') : r'.OnlyHolder n := by
  intro m other hm hother
  rw [h.getElem?_ne hm] at hother
  exact ho m other hm hother

theorem OnlyHolder.advances (ho : r.OnlyHolder n) (h : Advances d k stage stage' r r') (hs : stage'.holds = false) :
    r'.OnlyHolder n := by
  intro m other hm hother
  by_cases hmk : m = k
  · subst hmk
    rw [h.getElem?_self] at hother
    obtain rfl := Option.some.inj hother
    exact hs
  · rw [h.getElem?_ne hmk] at hother
    exact ho m other hm hother

/-- A call that comes to hold the session when none did is the only holder. -/
theorem Advances.onlyHolder (h : Advances d n stage stage' r r') (hn : ∀ stage ∈ r.calls, stage.holds = false) :
    r'.OnlyHolder n := by
  intro m other hm hother
  rw [h.getElem?_ne hm] at hother
  exact hn other (List.mem_of_getElem? hother)

theorem OnlyHolder.release (ho : r.OnlyHolder n) (h : Advances d n stage stage' r r') (hs : stage'.holds = false) :
    ∀ stage ∈ r'.calls, stage.holds = false := by
  intro other hother
  obtain ⟨m, hm⟩ := List.getElem?_of_mem hother
  by_cases hmn : m = n
  · subst hmn
    rw [h.getElem?_self] at hm
    obtain rfl := Option.some.inj hm
    exact hs
  · exact ho.advances_self h m other hmn hm

end

namespace Regime
variable {d : Document} {r r' : Run} {n : Nat} {stage stage' : Stage}

theorem aside (h : Regime r) (beside : Aside r r') : Regime r' := by
  have hs := beside.session
  have he := beside.endings
  cases h with
  | resting hp hn hend => exact resting (hs ▸ hp) (beside.not_holds hn) (he.trans hend)
  | flying hp hk hd ho hend =>
    exact flying (hs ▸ hp) (beside.getElem? hk) hd (ho.aside beside) (he.trans hend)
  | closing hp hk hr ht ho hend =>
    exact closing (hs ▸ hp) (beside.getElem? hk) hr (hs ▸ ht) (ho.aside beside) (he.trans hend)
  | ended hp hn hend => exact ended (hs ▸ hp) (beside.not_holds hn) (by rw [he, hend, hs])

theorem of_arrival [Grammars] {destination : Destination} (ho : r.OnlyHolder n)
    (advances : Advances d n stage destination.stage r r') (hs : r'.session = r.session.arrive destination)
    (hend : r'.endings = []) : Regime r' := by
  cases destination with
  | page p => exact resting (by rw [hs]; rfl) (ho.release advances rfl) hend
  | elsewhere | finish =>
    exact closing (by rw [hs]; rfl) advances.getElem?_self rfl (fun a ha => by cases ha)
      (ho.advances_self advances) hend

/-- A section keeps to the regimes: a page is left only from rest, only the call under way arrives, and only the
call that brought about the end reports it. -/
theorem passage [Grammars] (h : Regime r) (advances : Advances d n stage stage' r r') : Regime r' := by
  have effect := advances.effect
  have he := advances.endings
  have hk := advances.found
  -- A call other than the holder finds no active page, so it changes nothing.
  have idle : stage.holds = false → r.session.phase.isActive = false →
      r'.session = r.session ∧ stage'.holds = false ∧ r'.endings = r.endings := fun hs hp => by
    obtain ⟨same, hs'⟩ := effect.of_idle hs hp
    refine ⟨same, hs', ?_⟩
    rw [he, Stage.ending?_of_not_holds hs, Option.toList_none, List.append_nil]
  cases h with
  | resting hp hn hend =>
    have hs := hn stage advances.mem
    rw [Stage.ending?_of_not_holds hs, hend] at he
    rcases effect.of_active hs hp with ⟨hp', hs', -⟩ | ⟨submitted, -, -, hs', hd⟩
    · obtain ⟨j, hj⟩ := Phase.isActive_iff.mp hp'
      exact resting hj (advances.not_holds hn hs') he
    · exact flying (by rw [hs']; rfl) advances.getElem?_self (by rw [hd]; rfl) (advances.onlyHolder hn) he
  | @flying i m held hp hm hd ho hend =>
    by_cases hnm : n = m
    · subst hnm
      rw [hk] at hm
      obtain rfl := Option.some.inj hm
      obtain ⟨destination, hd⟩ := Option.isSome_iff_exists.mp hd
      rw [Stage.ending?_of_destination? (by rw [hd]; rfl), hend] at he
      rcases effect.of_destination? hd with ⟨hcore, hd', -⟩ | ⟨-, hs', rfl⟩
      · exact flying ((Session.phase_of_core hcore).trans hp) advances.getElem?_self (by rw [hd']; rfl)
          (ho.advances_self advances) he
      · exact of_arrival ho advances hs' he
    · obtain ⟨same, hs', hend'⟩ := idle (ho n stage hnm hk) (by rw [hp]; rfl)
      refine flying (same ▸ hp) ?_ hd (ho.advances advances hs') (hend'.trans hend)
      rw [advances.getElem?_ne (Ne.symm hnm), hm]
  | @closing redirect m held hp hm hr ht ho hend =>
    by_cases hnm : n = m
    · subst hnm
      rw [hk] at hm
      obtain rfl := Option.some.inj hm
      rw [hend, List.nil_append] at he
      have hcore := (effect.core_of_redirect? (by rw [hr]; rfl)).1
      rcases effect.of_redirect? hr ht with ⟨hnone, hr', ht'⟩ | ⟨htold, hs'⟩
      · rw [hnone] at he
        exact closing (by rw [Session.phase_of_core hcore]; exact hp) advances.getElem?_self hr'
          (by rw [Session.answers_of_core hcore]; exact ht') (ho.advances_self advances) he
      · rw [htold] at he
        exact ended (by rw [Session.phase_of_core hcore]; exact hp) (ho.release advances hs')
          (by rw [he, Session.answers_of_core hcore]; rfl)
    · obtain ⟨same, hs', hend'⟩ := idle (ho n stage hnm hk) (not_active_of_ending? hp)
      refine closing (same ▸ hp) ?_ hr (same ▸ ht) (ho.advances advances hs') (hend'.trans hend)
      rw [advances.getElem?_ne (Ne.symm hnm), hm]
  | ended hp hn hend =>
    obtain ⟨same, hs', hend'⟩ := idle (hn stage advances.mem) (not_active_of_ending? hp)
    exact ended (same ▸ hp) (advances.not_holds hn hs') (by rw [hend', hend, same])

/-- The session of a call that holds it is between pages or has ended. -/
theorem not_active_of_holds (h : Regime r) (hk : stage ∈ r.calls) (hs : stage.holds = true) :
    r.session.phase.isActive = false := by
  cases h with
  | resting _ hn => simp [hn stage hk] at hs
  | flying hp => rw [hp]; rfl
  | closing hp | ended hp => exact not_active_of_ending? hp

theorem not_holds_of_active (h : Regime r) (hp : r.session.phase.isActive = true) (hk : stage ∈ r.calls) :
    stage.holds = false := by
  cases hs : stage.holds with
  | false => rfl
  | true =>
    rw [h.not_active_of_holds hk hs] at hp
    cases hp

theorem destination?_eq_none (h : Regime r) (hp : ∀ i, r.session.phase ≠ .transitioning i) (hk : stage ∈ r.calls) :
    stage.destination? = none := by
  have of_not_holds : stage.holds = false → stage.destination? = none := fun hs =>
    Option.isNone_iff_eq_none.mp (by simpa using (Bool.or_eq_false_iff.mp hs).1)
  cases h with
  | resting _ hn | ended _ hn => exact of_not_holds (hn stage hk)
  | @flying i _ _ hi => exact absurd hi (hp i)
  | @closing redirect m held _ hm hr _ ho =>
    obtain ⟨n, hn⟩ := List.getElem?_of_mem hk
    by_cases hnm : n = m
    · subst hnm
      rw [hn] at hm
      obtain rfl := Option.some.inj hm
      cases stage <;> first | rfl | cases hr
    · exact of_not_holds (ho n stage hnm hn)

theorem destination?_of_transitioning {i : Nat} (h : Regime r) (hp : r.session.phase = .transitioning i) :
    ∃ stage ∈ r.calls, stage.destination?.isSome := by
  cases h with
  | resting hp' => rw [hp] at hp'; cases hp'
  | @flying _ n stage _ hk hd => exact ⟨stage, List.mem_of_getElem? hk, hd⟩
  | closing hp' | ended hp' => rw [hp] at hp'; cases hp'

/-- While a page is active, only the call that goes through its section can come to be on its way. -/
theorem eq_of_destination? [Grammars] (h : Regime r) (hp : r.session.phase.isActive = true)
    (advances : Advances d n stage stage' r r') {other : Stage} (ho : other ∈ r'.calls)
    (hd : other.destination?.isSome) : other = stage' := by
  rcases advances.mem_cases ho with ho | rfl
  · have := h.not_holds_of_active hp ho
    rw [Stage.holds_of_destination? hd] at this
    cases this
  · rfl

theorem start (setup : Setup) (store : Entries Answers) (given : Answers) : Regime (Run.start setup store given) :=
  resting rfl (fun stage hs => by cases hs) rfl

end Regime

/-- A call that has only been made is not on its way. -/
theorem Aside.mem_of_destination? {r r' : Run} {stage : Stage} (h : Aside r r') (hs : stage ∈ r'.calls)
    (hd : stage.destination?.isSome) : stage ∈ r.calls := by
  rcases h.mem_cases hs with hs | ⟨c, rfl⟩
  · exact hs
  · cases c <;> cases hd

theorem Reaches.regime [Grammars] {setup : Setup} {r₀ r : Run} {log : List Passage} (h : Reaches setup r₀ log r)
    (h₀ : Regime r₀) : Regime r := by
  induction h using Reaches.by_passages with
  | start => exact h₀
  | aside _ _ beside ih => exact ih.aside beside
  | passage _ _ advances ih => exact ih.passage advances

end Run

end Questionnaire
