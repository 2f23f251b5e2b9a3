import Questionnaire.Grammars.Builtin
import Questionnaire.Proofs.Session.Flight

/-!
# Single flight and one ending

The log of a run tells which call has left which page and has not arrived since. `Run.single_flight` ties it to the
session: the session is in transition exactly while one call is under way, every other call is refused meanwhile,
and the session ends once, with one report.
-/

namespace Questionnaire.Run

/-- The call leaves page `i` by this passage. -/
def Passage.Leaves [Grammars] (d : Document) (p : Passage) (i : Nat) : Prop :=
  p.session.phase = .active i ∧
    ∃ submitted departure, p.stage = .depart submitted ∧ (p.session.depart d submitted).2 = .departed departure

/-- The call arrives by this passage, at a page or at the end of the session. -/
def Passage.Arrives (p : Passage) : Prop := ∃ destination, p.stage = .arrive destination

/-- By the log, call `n` has left page `i` and has not arrived since. -/
def UnderWay [Grammars] (d : Document) (log : List Passage) (n i : Nat) : Prop :=
  ∃ before p after, log = before ++ p :: after ∧ p.call = n ∧ p.Leaves d i ∧ ∀ q ∈ after, q.call = n → ¬ q.Arrives

/-- By its stage, call `n` is between page `i` and its arrival. -/
def InFlight (r : Run) (n i : Nat) : Prop :=
  r.session.phase = .transitioning i ∧ ∃ stage, r.calls[n]? = some stage ∧ stage.destination?.isSome

/-- Every report of the end to the observer, under way or done. -/
def reports (r : Run) : List (Answers × Option String) := r.calls.filterMap Stage.ending? ++ r.endings

/-! ### Reading the log -/

section
variable [Grammars] {d : Document} {log : List Passage} {n i : Nat} {p : Passage}

theorem Passage.leaves_iff : p.Leaves d i ↔ p.session.phase = .active i ∧ ∃ submitted, p.stage = .depart submitted ∧
    validate (p.session.visible d i) (p.session.answers.extend submitted) = none := by
  constructor
  · rintro ⟨hi, submitted, departure, hs, hd⟩
    refine ⟨hi, submitted, hs, ?_⟩
    cases hv : validate (p.session.visible d i) (p.session.answers.extend submitted) with
    | none => rfl
    | some complaints =>
      rw [Session.depart_of_invalid hi hv] at hd
      cases hd
  · rintro ⟨hi, submitted, hs, hv⟩
    exact ⟨hi, submitted, _, hs, by rw [Session.depart_of_valid hi hv]⟩

theorem underWay_nil : ¬ UnderWay d [] n i := by
  rintro ⟨before, p, after, hlog, -⟩
  simp at hlog

theorem underWay_concat : UnderWay d (log ++ [p]) n i ↔
    p.call = n ∧ p.Leaves d i ∨ UnderWay d log n i ∧ (p.call = n → ¬ p.Arrives) := by
  constructor
  · rintro ⟨before, q, after, hlog, hq, hleave, harrive⟩
    rcases List.eq_nil_or_concat after with rfl | ⟨after, p', rfl⟩
    · obtain ⟨-, h⟩ := List.append_inj' hlog rfl
      obtain rfl := (List.cons.inj h).1
      exact Or.inl ⟨hq, hleave⟩
    · rw [List.concat_eq_append] at hlog harrive
      rw [← List.cons_append, ← List.append_assoc] at hlog
      obtain ⟨hlog', h⟩ := List.append_inj' hlog rfl
      obtain rfl := (List.cons.inj h).1
      refine Or.inr ⟨⟨before, q, after, hlog', hq, hleave, fun x hx => ?_⟩, ?_⟩
      · exact harrive x (List.mem_append_left _ hx)
      · exact harrive p (List.mem_append_right _ (List.mem_singleton_self p))
  · rintro (⟨hp, hleave⟩ | ⟨⟨before, q, after, rfl, hq, hleave, harrive⟩, hp⟩)
    · exact ⟨log, p, [], rfl, hp, hleave, fun q hq => by cases hq⟩
    · refine ⟨before, q, after ++ [p], by rw [List.append_assoc]; rfl, hq, hleave, fun x hx => ?_⟩
      rcases List.mem_append.mp hx with hx | hx
      · exact harrive x hx
      · obtain rfl := List.mem_singleton.mp hx
        exact hp

end

/-! ### The log and the stages agree -/

section
variable [Grammars] {d : Document} {log : List Passage} {r r' : Run} {n i k : Nat} {stage stage' : Stage}

omit [Grammars] in
theorem Regime.inFlight_unique (h : Regime r) (hn : r.InFlight n i) (hk : r.calls[k]? = some stage)
    (hs : stage.holds = true) : n = k := by
  obtain ⟨hp, flying, hn, hd⟩ := hn
  cases h with
  | resting hp' => rw [hp] at hp'; cases hp'
  | closing hp' | ended hp' => rw [hp] at hp'; cases hp'
  | flying _ _ _ ho =>
    -- Both hold the session, so both are the one holder.
    exact (ho.eq_of_holds hn (Stage.holds_of_destination? hd)).trans (ho.eq_of_holds hk hs).symm

/-- A section of a call that stays as far on its way as it was changes nothing about who is in flight. -/
theorem Advances.inFlight_iff (advances : Advances d k stage stage' r r')
    (hp : r'.session.phase = r.session.phase) (hd : stage'.destination?.isSome = stage.destination?.isSome) :
    r'.InFlight n i ↔ r.InFlight n i := by
  unfold InFlight
  rw [hp]
  by_cases hnk : n = k
  · subst hnk
    rw [advances.getElem?_self, advances.found]
    simp only [Option.some.injEq, exists_eq_left', hd]
  · rw [advances.getElem?_ne hnk]

omit [Grammars] in
theorem Aside.inFlight_iff (beside : Aside r r') : r'.InFlight n i ↔ r.InFlight n i := by
  unfold InFlight
  rw [beside.session]
  refine and_congr_right fun _ => ⟨?_, ?_⟩
  · rintro ⟨flying, hn, hd⟩
    rcases beside.getElem?_cases hn with hn | ⟨c, rfl⟩
    · exact ⟨flying, hn, hd⟩
    · cases c <;> cases hd
  · rintro ⟨flying, hn, hd⟩
    exact ⟨flying, beside.getElem? hn, hd⟩

theorem Passage.not_leaves (hp : r.session.phase.isActive = false) :
    ¬ (⟨k, stage, r.session⟩ : Passage).Leaves d i := by
  rintro ⟨hi, -⟩
  simp only at hi
  rw [hi] at hp
  cases hp

omit [Grammars] in
theorem Passage.Arrives.holds {s : Session} (h : (⟨k, stage, s⟩ : Passage).Arrives) : stage.holds = true := by
  obtain ⟨destination, hs⟩ := h
  simp only at hs
  subst hs
  rfl

/-- A passage that neither leaves a page nor arrives changes nothing about who is under way. -/
theorem underWay_quiet (hl : ¬ (⟨k, stage, r.session⟩ : Passage).Leaves d i)
    (ha : ¬ (⟨k, stage, r.session⟩ : Passage).Arrives) :
    UnderWay d (log ++ [⟨k, stage, r.session⟩]) n i ↔ UnderWay d log n i := by
  rw [underWay_concat]
  constructor
  · rintro (⟨-, h⟩ | ⟨h, -⟩)
    · exact absurd h hl
    · exact h
  · intro h
    exact Or.inr ⟨h, fun _ => ha⟩

/-- A passage of the call that holds the session keeps the log and the stages in agreement. -/
theorem underWay_of_holds (hr : Regime r) (ih : UnderWay d log n i ↔ r.InFlight n i)
    (advances : Advances d k stage stage' r r') (hs : stage.holds = true) :
    UnderWay d (log ++ [⟨k, stage, r.session⟩]) n i ↔ r'.InFlight n i := by
  have hl : ¬ (⟨k, stage, r.session⟩ : Passage).Leaves d i :=
    Passage.not_leaves (hr.not_active_of_holds advances.mem hs)
  cases hd : stage.destination? with
  | some destination =>
    rcases advances.effect.of_destination? hd with ⟨hcore, hd', hne⟩ | ⟨harr, hs', -⟩
    · have ha : ¬ (⟨k, stage, r.session⟩ : Passage).Arrives := by
        rintro ⟨destination', he⟩
        simp only at he
        subst he
        exact hne (congrArg Stage.arrive (Option.some.inj hd))
      rw [underWay_quiet hl ha, ih, advances.inFlight_iff (Session.phase_of_core hcore) (by rw [hd, hd'])]
    · -- The only call in flight has arrived.
      constructor
      · rw [underWay_concat, ih]
        rintro (⟨-, h⟩ | ⟨h, hna⟩)
        · exact absurd h hl
        · exact absurd ⟨destination, harr⟩ (hna (hr.inFlight_unique h advances.found hs).symm)
      · rintro ⟨hp, -⟩
        rw [hs'] at hp
        cases destination <;> cases hp
  | none =>
    have ha : ¬ (⟨k, stage, r.session⟩ : Passage).Arrives := by
      rintro ⟨destination, he⟩
      simp only at he
      subst he
      cases hd
    obtain ⟨hcore, hd'⟩ := advances.effect.core_of_redirect? (Stage.redirect?_of_holds hs hd)
    rw [underWay_quiet hl ha, ih, advances.inFlight_iff (Session.phase_of_core hcore) (by rw [hd, hd'])]

/-- A passage of any other call does so too: only from an active page does it come to be in flight. -/
theorem underWay_of_not_holds (hr : Regime r) (ih : UnderWay d log n i ↔ r.InFlight n i)
    (advances : Advances d k stage stage' r r') (hs : stage.holds = false) :
    UnderWay d (log ++ [⟨k, stage, r.session⟩]) n i ↔ r'.InFlight n i := by
  have ha : ¬ (⟨k, stage, r.session⟩ : Passage).Arrives := fun h => by
    rw [h.holds] at hs
    cases hs
  cases hp : r.session.phase.isActive with
  | false =>
    obtain ⟨same, hs'⟩ := advances.effect.of_idle hs hp
    have hd : stage.destination?.isSome = false := (Bool.or_eq_false_iff.mp hs).1
    have hd' : stage'.destination?.isSome = false := (Bool.or_eq_false_iff.mp hs').1
    rw [underWay_quiet (Passage.not_leaves hp) ha, ih, advances.inFlight_iff (by rw [same]) (by rw [hd, hd'])]
  | true =>
    obtain ⟨j, hj⟩ := Phase.isActive_iff.mp hp
    have rest : ¬ r.InFlight n i := by
      rintro ⟨hi, -⟩
      rw [hj] at hi
      cases hi
    rw [underWay_concat, ih]
    rcases advances.effect.of_active hs hj with ⟨hp', -, hv⟩ | ⟨submitted, hsub, hv, hs', hd⟩
    · constructor
      · rintro (⟨-, hl⟩ | ⟨h, -⟩)
        · obtain ⟨hi, submitted, hsub, hnone⟩ := Passage.leaves_iff.mp hl
          simp only at hi hsub hnone
          rw [hj] at hi
          cases hi
          exact absurd hnone (hv submitted hsub)
        · exact absurd h rest
      · rintro ⟨hi, -⟩
        rw [hi] at hp'
        cases hp'
    · have nobody : ∀ other ∈ r.calls, other.holds = false := fun other => hr.not_holds_of_active hp
      constructor
      · rintro (⟨rfl, hl⟩ | ⟨h, -⟩)
        · obtain ⟨hi, -⟩ := Passage.leaves_iff.mp hl
          simp only at hi
          rw [hj] at hi
          cases hi
          exact ⟨by rw [hs']; rfl, stage', advances.getElem?_self, by rw [hd]; rfl⟩
        · exact absurd h rest
      · rintro ⟨hi, flying, hn, hf⟩
        rw [hs'] at hi
        cases hi
        have hnk := (advances.onlyHolder nobody).eq_of_holds hn (Stage.holds_of_destination? hf)
        exact Or.inl ⟨hnk.symm, Passage.leaves_iff.mpr ⟨hj, submitted, hsub, hv⟩⟩

end

theorem Reaches.underWay_iff [Grammars] {setup : Setup} {r₀ r : Run} {log : List Passage} {n i : Nat}
    (h : Reaches setup r₀ log r) (h₀ : Regime r₀) (hp : r₀.session.phase.isActive = true) :
    UnderWay setup.document log n i ↔ r.InFlight n i := by
  induction h using Reaches.by_passages with
  | start =>
    refine iff_of_false underWay_nil ?_
    rintro ⟨hi, -⟩
    rw [hi] at hp
    cases hp
  | aside _ _ beside ih => rw [ih, beside.inFlight_iff]
  | @passage log r r' k stage stage' h _ advances ih =>
    cases hs : stage.holds
    · exact underWay_of_not_holds (h.regime h₀) ih advances hs
    · exact underWay_of_holds (h.regime h₀) ih advances hs

/-! ### Refusals, and the end -/

section
variable {setup : Setup} {r r' : Run} {n : Nat} {stage : Stage}

/-- While no page is active, a call that asks for anything is refused, and nothing else happens. -/
theorem move?_refused [Grammars] {t : Option Transition} (hp : r.session.phase.isActive = false)
    (hk : r.calls[n]? = some stage) (hr : stage.refusal? = some t) :
    r.move? setup (.advance n) = some { r with calls := r.calls.set n (.done t) } :=
  (Acts.refused hp hr).move? hk

theorem not_active_of_isTerminal {p : Phase} (h : p.isTerminal = true) : p.isActive = false := by
  cases p <;> first | rfl | cases h

theorem Regime.core_of_isTerminal [Grammars] {d : Document} {stage' : Stage} (h : Regime r)
    (ht : r.session.phase.isTerminal = true) (advances : Advances d n stage stage' r r') :
    r'.session.core = r.session.core := by
  cases hs : stage.holds with
  | false => rw [(advances.effect.of_idle hs (not_active_of_isTerminal ht)).1]
  | true =>
    have hd := h.destination?_eq_none (fun i hi => by rw [hi] at ht; cases ht) advances.mem
    exact (advances.effect.core_of_redirect? (Stage.redirect?_of_holds hs hd)).1

/-- A session that has ended never changes again. -/
theorem Reaches.core_of_isTerminal [Grammars] {log : List Passage} (h : Reaches setup r log r') (hr : Regime r)
    (ht : r.session.phase.isTerminal = true) : r'.session.core = r.session.core := by
  induction h using Reaches.by_passages with
  | start => rfl
  | aside _ _ beside ih => rw [beside.session, ih]
  | passage h _ advances ih =>
    rw [← Session.phase_of_core ih] at ht
    exact ((h.regime hr).core_of_isTerminal ht advances).trans ih

theorem filterMap_ending?_of_only {calls : List Stage} (hn : calls[n]? = some stage)
    (h : ∀ m other, m ≠ n → calls[m]? = some other → other.holds = false) :
    calls.filterMap Stage.ending? = stage.ending?.toList := by
  induction calls generalizing n with
  | nil => cases hn
  | cons first rest ih =>
    rw [List.filterMap_cons]
    cases n with
    | zero =>
      obtain rfl := Option.some.inj hn
      have hrest : rest.filterMap Stage.ending? = [] := by
        rw [List.filterMap_eq_nil_iff]
        intro other ho
        obtain ⟨m, hm⟩ := List.getElem?_of_mem ho
        exact Stage.ending?_of_not_holds (h (m + 1) other (Nat.succ_ne_zero m) hm)
      cases first.ending? <;> simp [hrest]
    | succ n =>
      rw [Stage.ending?_of_not_holds (h 0 first (Nat.succ_ne_zero n).symm rfl)]
      exact ih hn fun m other hm ho => h (m + 1) other (fun e => hm (Nat.succ.inj e)) ho

theorem filterMap_ending?_of_none {calls : List Stage} (h : ∀ stage ∈ calls, stage.holds = false) :
    calls.filterMap Stage.ending? = [] :=
  List.filterMap_eq_nil_iff.mpr fun stage hs => Stage.ending?_of_not_holds (h stage hs)

/-- The end is reported only when the session has ended, once, with its address and its answers. -/
theorem Regime.reports (h : Regime r) : r.reports = [] ∨
    ∃ redirect, r.session.phase.ending? = some redirect ∧ r.reports = [(r.session.answers, redirect)] := by
  unfold Run.reports
  cases h with
  | resting _ hn hend => exact Or.inl (by rw [filterMap_ending?_of_none hn, hend]; rfl)
  | flying _ hk hd ho hend =>
    exact Or.inl (by rw [filterMap_ending?_of_only hk ho, Stage.ending?_of_destination? hd, hend]; rfl)
  | @closing redirect n stage hp hk hr ht ho hend =>
    rw [filterMap_ending?_of_only hk ho, hend, List.append_nil]
    cases stage with
    | tell answers redirect' due =>
      obtain rfl := Option.some.inj hr
      exact Or.inr ⟨redirect', hp, by rw [← ht answers rfl]; rfl⟩
    | record | depart | back | note | arrive | settle | await | clear | done => exact Or.inl rfl
  | ended hp hn hend => exact Or.inr ⟨_, hp, by rw [filterMap_ending?_of_none hn, hend]; rfl⟩

end

theorem isTerminal_of_ending? {p : Phase} {redirect : Option String} (h : p.ending? = some redirect) :
    p.isTerminal = true := by
  cases p <;> first | rfl | cases h

/-- In every run of a session: it is in transition from page `i` exactly while a call that left page `i` has not
arrived, and never are two calls under way; while no page is active, every request is refused and changes nothing;
a session that has ended stays as it is; and the observer is told of the end at most once, with the address at which
the session has ended and the answers that it has then and ever after. -/
theorem single_flight [Grammars] {setup : Setup} {store : Entries Answers} {given : Answers} {log : List Passage}
    {r : Run} (h : Reaches setup (start setup store given) log r) :
    (∀ i, r.session.phase = .transitioning i ↔ ∃ n, UnderWay setup.document log n i) ∧
    (∀ m n i j, UnderWay setup.document log m i → UnderWay setup.document log n j → m = n ∧ i = j) ∧
    (r.session.phase.isActive = false → ∀ n stage t, r.calls[n]? = some stage → stage.refusal? = some t →
      r.move? setup (.advance n) = some { r with calls := r.calls.set n (.done t) }) ∧
    (r.session.phase.isTerminal = true → ∀ later r', Reaches setup r later r' → r'.session.core = r.session.core) ∧
    r.reports.length ≤ 1 ∧
    ∀ answers redirect, (answers, redirect) ∈ r.reports → ∀ later r', Reaches setup r later r' →
      r'.session.answers = answers ∧ r'.session.phase.ending? = some redirect := by
  have regime := h.regime (Regime.start setup store given)
  have flight : ∀ n i, UnderWay setup.document log n i ↔ r.InFlight n i := fun n i =>
    h.underWay_iff (Regime.start setup store given) rfl
  refine ⟨fun i => ⟨fun hi => ?_, ?_⟩, fun m n i j hm hn => ?_, fun hp n stage t => move?_refused hp,
    fun ht later r' h' => h'.core_of_isTerminal regime ht, ?_, fun answers redirect he later r' h' => ?_⟩
  · obtain ⟨stage, hs, hd⟩ := regime.destination?_of_transitioning hi
    obtain ⟨n, hn⟩ := List.getElem?_of_mem hs
    exact ⟨n, (flight n i).mpr ⟨hi, stage, hn, hd⟩⟩
  · rintro ⟨n, hn⟩
    exact ((flight n i).mp hn).1
  · have hm := (flight m i).mp hm
    obtain ⟨hj, stage, hk, hd⟩ := (flight n j).mp hn
    refine ⟨regime.inFlight_unique hm hk (Stage.holds_of_destination? hd), ?_⟩
    have hi := hm.1
    rw [hj] at hi
    cases hi
    rfl
  · rcases regime.reports with he | ⟨redirect, -, he⟩ <;> simp [he]
  · rcases regime.reports with hnil | ⟨redirect', hp, hone⟩
    · rw [hnil] at he
      cases he
    · rw [hone] at he
      obtain ⟨rfl, rfl⟩ := Prod.mk.inj (List.mem_singleton.mp he)
      have hcore := h'.core_of_isTerminal regime (isTerminal_of_ending? hp)
      exact ⟨Session.answers_of_core hcore, by rw [Session.phase_of_core hcore]; exact hp⟩

/-- Two empty pages. -/
def twoPages : Setup where
  document := { pages := [{ id := "first" }, { id := "second" }] }
  window := 0

open scoped Grammars in
/-- Two requests to go on at once: when one has left the first page, the other one is refused. -/
theorem single_flight_of_two : ∃ log r, Reaches twoPages (start twoPages ∅ ∅) log r ∧
    r.session.phase = .transitioning 0 ∧ (∃ n, UnderWay twoPages.document log n 0) ∧
    r.move? twoPages (.advance 1) = some { r with calls := r.calls.set 1 (.done (some .ignored)) } := by
  have h : Reaches twoPages (start twoPages ∅ ∅) _ _ :=
    Reaches.of_follow? [.call (.next ∅), .call (.next ∅), .advance 0] rfl
  have flight := single_flight h
  exact ⟨_, _, h, rfl, (flight.1 0).mp rfl, flight.2.2.1 rfl 1 (.depart ∅) _ rfl rfl⟩

end Questionnaire.Run
