import Questionnaire.Grammars.Builtin
import Questionnaire.Proofs.Session.Derivation

/-!
# Calls one at a time

However the sections of calls are ordered, the session comes out as if the calls that were not refused had been made
one at a time, in the order of their deciding sections. A call under way has already brought about the state that it
will arrive in, and every other call is refused until then, so that the session lags behind the calls made one at a
time by one arrival at most.
-/

namespace Questionnaire

namespace Session
variable [Grammars] {d : Document} {s : Session} {i : Nat} {submitted : Answers}

/-- What a call does to a session that nothing else happens to. An answer is only recorded: where it ends its page,
that is another call. -/
def perform (d : Document) (c : Call) (s : Session) : Session :=
  match c with
  | .next submitted =>
    match s.depart d submitted with
    | (s, .departed departure) => s.arrive departure.destination
    | (s, _) => s
  | .set id v => ((s.record d id v).map Prod.fst).getD s
  | .previous => (s.back d).1

theorem perform_of_not_active (h : s.phase.isActive = false) (c : Call) : s.perform d c = s := by
  cases c with
  | next submitted => simp only [perform, depart_of_not_active h]
  | set id v => simp only [perform, record_of_not_active h, Option.map_none, Option.getD_none]
  | previous => simp only [perform, back_of_not_active h]

theorem perform_set (h : s.phase = .active i) (id : String) (v : Json) :
    s.perform d (.set id v) = { s with answers := s.answers.insert id v } := by
  simp only [perform, record_of_active h, Option.map_some, Option.getD_some]

theorem perform_next_of_invalid {complaints : Complaints} (h : s.phase = .active i)
    (hv : validate (s.visible d i) (s.answers.extend submitted) = some complaints) :
    s.perform d (.next submitted) =
      { s with answers := s.answers.extend submitted, complaints := some complaints } := by
  simp only [perform, depart_of_invalid h hv]

theorem perform_next_of_valid (h : s.phase = .active i)
    (hv : validate (s.visible d i) (s.answers.extend submitted) = none) :
    s.perform d (.next submitted) = (s.left d i submitted).arrive (s.toward d i submitted) := by
  simp only [perform, depart_of_valid h hv]

theorem perform_previous_of_empty (h : s.history = []) : s.perform d .previous = s := by
  simp only [perform, back_of_empty h]

theorem perform_previous_of_snapshot {snapshot : Snapshot} {rest : List Snapshot} (h : s.phase = .active i)
    (hh : s.history = snapshot :: rest) : s.perform d .previous = s.restored snapshot rest := by
  simp only [perform, back_of_snapshot h hh]

omit [Grammars] in
theorem core_arrive (destination : Destination) : (s.arrive destination).core = (s.core.arrive destination).core := by
  cases destination <;> rfl

/-- What a call does depends on nothing but what it may change. -/
theorem core_perform (d : Document) (c : Call) (s : Session) : (s.perform d c).core = (s.core.perform d c).core := by
  cases hp : s.phase.isActive with
  | false => rw [perform_of_not_active hp, perform_of_not_active (s := s.core) hp]; rfl
  | true =>
    obtain ⟨i, hi⟩ := Phase.isActive_iff.mp hp
    have hi' : s.core.phase = .active i := hi
    cases c with
    | next submitted =>
      cases hv : validate (s.visible d i) (s.answers.extend submitted) with
      | some complaints =>
        rw [perform_next_of_invalid hi hv, perform_next_of_invalid hi' hv]
        rfl
      | none =>
        rw [perform_next_of_valid hi hv, perform_next_of_valid hi' hv, core_arrive,
          core_arrive (s := left d i submitted s.core)]
        rfl
    | set id v =>
      rw [perform_set hi, perform_set hi']
      rfl
    | previous =>
      cases hh : s.history with
      | nil =>
        rw [perform_previous_of_empty hh, perform_previous_of_empty (s := s.core) hh]
        rfl
      | cons snapshot rest =>
        rw [perform_previous_of_snapshot hi hh, perform_previous_of_snapshot hi' hh]
        rfl

theorem core_perform_congr {s' : Session} (h : s.core = s'.core) (d : Document) (c : Call) :
    (s.perform d c).core = (s'.perform d c).core := by
  rw [core_perform, h, ← core_perform]

omit [Grammars] in
theorem core_arrive_congr {s' : Session} (h : s.core = s'.core) (destination : Destination) :
    (s.arrive destination).core = (s'.arrive destination).core := by
  rw [core_arrive, h, ← core_arrive]

end Session

namespace Run

/-- The call that a passage decides, unless it is refused or ignored. -/
def Passage.call? [Grammars] (d : Document) (p : Passage) : Option Call :=
  match p.stage with
  | .record id v => (p.session.record d id v).map fun _ => .set id v
  | .depart submitted =>
    match (p.session.depart d submitted).2 with
    | .ignored => none
    | _ => some (.next submitted)
  | .back =>
    match (p.session.back d).2 with
    | .ignored => none
    | _ => some .previous
  | _ => none

/-- Call `n` goes on, and nothing else happens, until it is not on its way any more. -/
inductive Lands [Grammars] (setup : Setup) (n : Nat) : Run → Run → Prop
  | landed {r stage} : r.calls[n]? = some stage → stage.destination? = none → Lands setup n r r
  | flying {r r₁ r' stage} : r.calls[n]? = some stage → stage.destination?.isSome →
      r.move? setup (.advance n) = some r₁ → Lands setup n r₁ r' → Lands setup n r r'

/-- The call is made, decided and brought to its arrival, and nothing else happens. -/
inductive Alone [Grammars] (setup : Setup) (c : Call) (r : Run) : Run → Prop
  | intro {r₁ r₂ r'} : r.move? setup (.call c) = some r₁ →
      r₁.move? setup (.advance r.calls.length) = some r₂ → Lands setup r.calls.length r₂ r' → Alone setup c r r'

/-- The calls are made one at a time, in that order. -/
inductive OneByOne [Grammars] (setup : Setup) (r₀ : Run) : List Call → Run → Prop
  | nil : OneByOne setup r₀ [] r₀
  | concat {calls c r r'} : OneByOne setup r₀ calls r → Alone setup c r r' → OneByOne setup r₀ (calls ++ [c]) r'

/-! ### One call at a time -/

section
variable [Grammars] {setup : Setup} {r r' : Run} {n : Nat} {stage : Stage}

theorem Lands.eq_of_landed (h : Lands setup n r r') (hn : r.calls[n]? = some stage)
    (hd : stage.destination? = none) : r' = r := by
  cases h with
  | landed => rfl
  | flying hk hd' =>
    rw [hn] at hk
    obtain rfl := Option.some.inj hk
    rw [hd] at hd'
    cases hd'

theorem Lands.core {destination : Destination} (h : Lands setup n r r') (hn : r.calls[n]? = some stage)
    (hd : stage.destination? = some destination) : r'.session.core = (r.session.arrive destination).core := by
  induction h generalizing stage with
  | landed hk hnone =>
    rw [hn] at hk
    obtain rfl := Option.some.inj hk
    rw [hd] at hnone
    cases hnone
  | @flying r r₁ r' _ _ _ hm h ih =>
    obtain ⟨stage', advances⟩ := Advances.of_move? hm hn
    rcases advances.effect.of_destination? hd with ⟨hcore, hd', -⟩ | ⟨-, hs, rfl⟩
    · rw [ih advances.getElem?_self hd']
      exact Session.core_arrive_congr hcore destination
    · rw [h.eq_of_landed advances.getElem?_self destination.destination?_stage, hs]

/-- Where a call leads that the session decides. -/
theorem effect_of_call {d : Document} {s s' : Session} {c : Call} {stage : Stage} (h : Effect d s c.stage s' stage) :
    stage.destination? = none ∧ s' = s.perform d c ∨
      ∃ destination, stage.destination? = some destination ∧ s'.arrive destination = s.perform d c := by
  cases c with
  | next submitted =>
    cases h with
    | refused ha => exact Or.inl ⟨rfl, (Session.perform_of_not_active ha _).symm⟩
    | rejected hi hv => exact Or.inl ⟨rfl, (Session.perform_next_of_invalid hi hv).symm⟩
    | departed hi hv hd => exact Or.inr ⟨_, hd, (Session.perform_next_of_valid hi hv).symm⟩
  | set id v =>
    cases h with
    | refused ha => exact Or.inl ⟨rfl, (Session.perform_of_not_active ha _).symm⟩
    | recorded hi =>
      refine Or.inl ⟨?_, (Session.perform_set hi id v).symm⟩
      split <;> rfl
  | previous =>
    cases h with
    | refused ha => exact Or.inl ⟨rfl, (Session.perform_of_not_active ha _).symm⟩
    | stayed hi hh => exact Or.inl ⟨rfl, (Session.perform_previous_of_empty hh).symm⟩
    | returned hi hh => exact Or.inl ⟨rfl, (Session.perform_previous_of_snapshot hi hh).symm⟩

theorem Alone.core {c : Call} (h : Alone setup c r r') :
    r'.session.core = (r.session.perform setup.document c).core := by
  obtain ⟨hcall, hdecide, lands⟩ := h
  obtain rfl := Option.some.inj hcall
  obtain ⟨stage, advances⟩ := Advances.of_move? hdecide List.getElem?_concat_length
  rcases effect_of_call advances.effect with ⟨hd, hs⟩ | ⟨destination, hd, hs⟩
  · rw [lands.eq_of_landed advances.getElem?_self hd, hs]
  · rw [lands.core advances.getElem?_self hd, hs]

theorem OneByOne.core {r₀ : Run} {calls : List Call} (h : OneByOne setup r₀ calls r) :
    r.session.core = (calls.foldl (fun s c => s.perform setup.document c) r₀.session).core := by
  induction h with
  | nil => rfl
  | concat _ alone ih =>
    rw [alone.core, List.foldl_append]
    exact Session.core_perform_congr ih setup.document _

theorem lands_exists (setup : Setup) (hn : r.calls[n]? = some stage) : ∃ r', Lands setup n r r' := by
  induction hrank : stage.rank using Nat.strongRecOn generalizing r stage with
  | _ rank ih =>
    cases hd : stage.destination? with
    | none => exact ⟨r, .landed hn hd⟩
    | some destination =>
      obtain ⟨r₁, stage', acts⟩ := (isReady_of_destination? (r := r) hd).acts setup
      have advances := acts.advances hn
      obtain ⟨r', lands⟩ := ih _ (hrank ▸ advances.effect.rank_lt) advances.getElem?_self rfl
      exact ⟨r', .flying hn (by rw [hd]; rfl) (acts.move? hn) lands⟩

theorem alone_exists (setup : Setup) (c : Call) (r : Run) : ∃ r', Alone setup c r r' := by
  obtain ⟨r₁, stage', acts⟩ := (isReady_call { r with calls := r.calls ++ [c.stage] } c).acts setup
  obtain ⟨r', lands⟩ := lands_exists setup (acts.advances List.getElem?_concat_length).getElem?_self
  exact ⟨r', rfl, acts.move? List.getElem?_concat_length, lands⟩

theorem oneByOne_exists (setup : Setup) (r₀ : Run) (calls : List Call) : ∃ r, OneByOne setup r₀ calls r := by
  induction calls using List.reverseRecOn with
  | nil => exact ⟨r₀, .nil⟩
  | append_singleton calls c ih =>
    obtain ⟨r, h⟩ := ih
    obtain ⟨r', alone⟩ := alone_exists setup c r
    exact ⟨r', h.concat alone⟩

end

/-! ### Any order -/

/-- The session after the calls that a log decides, made one at a time. -/
def serially [Grammars] (d : Document) (log : List Passage) (s₀ : Session) : Session :=
  (log.filterMap (Passage.call? d)).foldl (fun s c => s.perform d c) s₀

/-- The session is at one arrival, at most, from the calls made one at a time. -/
structure Tracks [Grammars] (d : Document) (s₀ : Session) (log : List Passage) (r : Run) : Prop where
  landed : (∀ i, r.session.phase ≠ .transitioning i) → r.session.core = (serially d log s₀).core
  flying : ∀ stage ∈ r.calls, ∀ destination, stage.destination? = some destination →
    (r.session.arrive destination).core = (serially d log s₀).core

section
variable [Grammars] {d : Document} {s₀ : Session} {log : List Passage} {r r' : Run} {n : Nat} {stage stage' : Stage}

theorem serially_concat_of_some {p : Passage} {c : Call} (h : p.call? d = some c) (log : List Passage)
    (s₀ : Session) : serially d (log ++ [p]) s₀ = (serially d log s₀).perform d c := by
  rw [serially, List.filterMap_append, List.filterMap_cons_some h, List.foldl_append]
  rfl

theorem serially_concat_of_none {p : Passage} (h : p.call? d = none) (log : List Passage) (s₀ : Session) :
    serially d (log ++ [p]) s₀ = serially d log s₀ := by
  rw [serially, List.filterMap_append, List.filterMap_cons_none h, List.filterMap_nil, List.append_nil, serially]

theorem Passage.of_call? {p : Passage} {c : Call} (h : p.call? d = some c) :
    p.stage = c.stage ∧ p.session.phase.isActive = true := by
  have active : (p.session.phase.isActive = false → p.call? d = none) → p.session.phase.isActive = true := fun hn => by
    cases hp : p.session.phase.isActive with
    | true => rfl
    | false =>
      rw [hn hp] at h
      cases h
  obtain ⟨n, stage, s⟩ := p
  cases stage with
  | record id v =>
    refine ⟨?_, active fun hp => by simp only [call?, Session.record_of_not_active hp, Option.map_none]⟩
    obtain ⟨-, -, rfl⟩ := Option.map_eq_some_iff.mp h
    rfl
  | depart submitted =>
    refine ⟨?_, active fun hp => by simp only [call?, Session.depart_of_not_active hp]⟩
    simp only [call?] at h
    split at h
    · cases h
    · cases h
      rfl
  | back =>
    refine ⟨?_, active fun hp => by simp only [call?, Session.back_of_not_active hp]⟩
    simp only [call?] at h
    split at h
    · cases h
    · cases h
      rfl
  | note | arrive | settle | await | tell | clear | done => cases h

/-- A section that decides no call leaves the session as it is, but for the arrival of a call. -/
theorem effect_of_undecided {s s' : Session} (h : Effect d s stage s' stage')
    (hnone : (⟨n, stage, s⟩ : Passage).call? d = none)
    (hpage : ∀ i snapshot rest, s.phase = .active i → s.history = snapshot :: rest →
      ∃ page, d.pages[snapshot.index]? = some page) :
    (s'.core = s.core ∧ ∀ destination, stage'.destination? = some destination →
      stage.destination? = some destination) ∨
    ∃ destination, stage = .arrive destination ∧ s' = s.arrive destination := by
  cases h with
  | refused | stayed | settled | awaited | told | cleared => exact Or.inl ⟨rfl, fun _ hd => by cases hd⟩
  | noted => exact Or.inl ⟨rfl, fun _ hd => hd⟩
  | arrived => exact Or.inr ⟨_, rfl, rfl⟩
  | recorded hi =>
    simp only [Passage.call?, Session.record_of_active hi] at hnone
    cases hnone
  | rejected hi hv =>
    simp only [Passage.call?, Session.depart_of_invalid hi hv] at hnone
    cases hnone
  | departed hi hv =>
    simp only [Passage.call?, Session.depart_of_valid hi hv] at hnone
    cases hnone
  | returned hi hh =>
    obtain ⟨page, hp⟩ := hpage _ _ _ hi hh
    simp only [Passage.call?, Session.back_of_snapshot hi hh, hp] at hnone
    cases hnone

theorem Tracks.aside (h : Tracks d s₀ log r) (beside : Aside r r') : Tracks d s₀ log r' := by
  have hs := beside.session
  refine ⟨fun hp => hs ▸ h.landed (hs ▸ hp), fun other ho destination hd => ?_⟩
  rw [hs]
  exact h.flying other (beside.mem_of_destination? ho (by rw [hd]; rfl)) destination hd

theorem Tracks.decided (regime : Regime r) (regime' : Regime r') (h : Tracks d s₀ log r) {c : Call}
    (advances : Advances d n stage stage' r r') (hsome : (⟨n, stage, r.session⟩ : Passage).call? d = some c) :
    Tracks d s₀ (log ++ [⟨n, stage, r.session⟩]) r' := by
  obtain ⟨hstage, hactive⟩ := Passage.of_call? hsome
  simp only at hstage hactive
  subst hstage
  have hserial := h.landed fun i hi => by
    rw [hi] at hactive
    cases hactive
  have performed := Session.core_perform_congr hserial d c
  rw [← serially_concat_of_some hsome] at performed
  -- Nobody is on the way while a page is active, unless this section has left the page.
  rcases effect_of_call advances.effect with ⟨hnone, hs⟩ | ⟨destination, hd, hs⟩
  · refine ⟨fun _ => by rw [hs]; exact performed, fun other ho destination hd => ?_⟩
    obtain rfl := regime.eq_of_destination? hactive advances ho (by rw [hd]; rfl)
    rw [hnone] at hd
    cases hd
  · refine ⟨fun hp => ?_, fun other ho destination' hd' => ?_⟩
    · rw [regime'.destination?_eq_none hp (List.mem_of_getElem? advances.getElem?_self)] at hd
      cases hd
    · obtain rfl := regime.eq_of_destination? hactive advances ho (by rw [hd']; rfl)
      rw [hd] at hd'
      obtain rfl := Option.some.inj hd'
      rw [hs]
      exact performed

/-- A section that decides no call brings the session no further than to the arrival that it lags behind. -/
theorem Tracks.undecided (regime' : Regime r') (h : Tracks d s₀ log r) (hderived : Derived d r)
    (advances : Advances d n stage stage' r r') (hnone : (⟨n, stage, r.session⟩ : Passage).call? d = none) :
    Tracks d s₀ (log ++ [⟨n, stage, r.session⟩]) r' := by
  have same := serially_concat_of_none hnone log s₀
  rcases effect_of_undecided advances.effect hnone fun i snapshot rest => hderived.page_of_snapshot with
    ⟨hcore, hd⟩ | ⟨destination, rfl, hs⟩
  · refine ⟨fun hp => ?_, fun other ho destination hd' => ?_⟩
    · rw [same, hcore]
      exact h.landed fun i hi => hp i ((Session.phase_of_core hcore).trans hi)
    · rw [same, Session.core_arrive_congr hcore]
      rcases advances.mem_cases ho with ho | rfl
      · exact h.flying other ho destination hd'
      · exact h.flying stage advances.mem destination (hd destination hd')
  · have hp : ∀ i, r'.session.phase ≠ .transitioning i := fun i hi => by
      rw [hs] at hi
      cases destination <;> cases hi
    refine ⟨fun _ => ?_, fun other ho destination' hd' => ?_⟩
    · rw [same, hs]
      exact h.flying _ advances.mem destination rfl
    · rw [regime'.destination?_eq_none hp ho] at hd'
      cases hd'

end

section
variable [Grammars] {setup : Setup} {store : Entries Answers} {given : Answers} {log : List Passage} {r : Run}

theorem Reaches.tracks (h : Reaches setup (start setup store given) log r) :
    Tracks setup.document (start setup store given).session log r := by
  induction h using Reaches.by_passages with
  | start => exact ⟨fun _ => rfl, fun stage hs => by cases hs⟩
  | aside _ _ beside ih => exact ih.aside beside
  | @passage log r r' n stage stage' h h' advances ih =>
    have regime := h.regime (Regime.start setup store given)
    have regime' := h'.regime (Regime.start setup store given)
    cases hcall : (⟨n, stage, r.session⟩ : Passage).call? setup.document with
    | none => exact ih.undecided regime' h.derived advances hcall
    | some c => exact ih.decided regime regime' advances hcall

/-- In every run, however the sections of its calls are ordered: once no call is on its way between two pages, the
session is as the calls that were neither refused nor ignored, made one at a time in the order of their deciding
sections, leave a session that starts alike. -/
theorem serializable (h : Reaches setup (start setup store given) log r)
    (hrest : ∀ stage ∈ r.calls, stage.destination? = none) :
    (∃ serial, OneByOne setup (start setup store given) (log.filterMap (Passage.call? setup.document)) serial) ∧
    ∀ serial, OneByOne setup (start setup store given) (log.filterMap (Passage.call? setup.document)) serial →
      r.session.core = serial.session.core := by
  refine ⟨oneByOne_exists _ _ _, fun serial hserial => ?_⟩
  have landed : ∀ i, r.session.phase ≠ .transitioning i := fun i hi => by
    obtain ⟨stage, hs, hd⟩ := (h.regime (Regime.start setup store given)).destination?_of_transitioning hi
    rw [hrest stage hs] at hd
    cases hd
  exact (h.tracks.landed landed).trans hserial.core.symm

end

open scoped Grammars in
/-- Two requests to go on at once and then one to go back: the calls made one at a time are two. -/
theorem serializable_of_three : ∃ log r, Reaches scored (start scored ∅ ∅) log r ∧
    r.calls.length = 3 ∧ (log.filterMap (Passage.call? scored.document)).length = 2 ∧
    ∃ serial, OneByOne scored (start scored ∅ ∅) (log.filterMap (Passage.call? scored.document)) serial ∧
      r.session.core = serial.session.core := by
  have run : ((start scored ∅ ∅).follow? scored [.call (.next ∅), .call (.next ∅), .advance 0, .advance 1,
      .call .previous, .advance 0, .advance 2]).map (fun reached =>
        (reached.2.calls.map fun stage => stage.destination?.isSome,
          (reached.1.filterMap (Passage.call? scored.document)).length)) = some ([false, false, false], 2) := by
    decide +kernel
  obtain ⟨⟨log, r⟩, hr, hplace⟩ := Option.map_eq_some_iff.mp run
  obtain ⟨hflight, hlen⟩ := Prod.mk.inj hplace
  have h := Reaches.of_follow? _ hr
  have hrest : ∀ stage ∈ r.calls, stage.destination? = none := fun stage hs => by
    have hm := List.mem_map_of_mem (f := fun stage : Stage => stage.destination?.isSome) hs
    rw [hflight] at hm
    simpa using hm
  obtain ⟨⟨serial, hserial⟩, hall⟩ := serializable h hrest
  refine ⟨log, r, h, ?_, hlen, serial, hserial, hall serial hserial⟩
  rw [← List.length_map (fun stage : Stage => stage.destination?.isSome), hflight]
  rfl

end Run

end Questionnaire
