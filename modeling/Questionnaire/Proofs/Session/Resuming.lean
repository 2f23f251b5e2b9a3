import Questionnaire.Grammars.Builtin
import Questionnaire.Proofs.Session.Progress

/-!
# What a resumed session finds

A call gives the answers of the session to the cache when it records one and when it comes to another page; a request to
go on that is turned down adds answers to the session without giving them to the cache. `Giving` follows one call by what
it has given. So once the cache is at rest, the store holds the answers that the session had after the last call that
gave any, and a session that is started over the store begins with those.
-/

namespace Questionnaire.Run

/-- The call has recorded an answer or has gone on to another page. -/
def Played.isGiven (p : Played) : Bool :=
  match p.call, p.answer with
  | .set _ _, _ | .next _, some (.moved _) => true
  | _, _ => false

/-- The call has asked to go on, and the answers did not pass. -/
def Played.isTurnedDown (p : Played) : Bool :=
  match p.call, p.answer with
  | .next _, some (.invalid _) => true
  | _, _ => false

/-- The call has changed the answers of the session. -/
def Played.Changes (p : Played) : Prop := p.after.session.answers ≠ p.before.session.answers

/-- The answers of the session after the last call that gave any to the cache. -/
def lastGiven? (played : List Played) : Option Answers :=
  ((played.filter Played.isGiven).getLast?).map fun p => p.after.session.answers

/-- How far a call has come that was made when the session held answers `a₀` and had given `last` to the cache, with what
it has given last by now. -/
inductive Giving (c : Call) (a₀ : Answers) (last : Option Answers) : Stage → Session → Option Answers → Prop
  | deciding {s} : s.phase.isActive = true → s.answers = a₀ → Giving c a₀ last c.stage s last
  | recorded {s stage} : (∃ id v, c = .set id v) →
      stage = .depart ∅ ∧ s.phase.isActive = true ∨ (∃ t : Option Transition, stage = .done t) →
      Giving c a₀ last stage s (some s.answers)
  | leaving {s stage now} : c.isBack = false → stage.destination?.isSome → Giving c a₀ last stage s now
  | came {s q} : c.isBack = false → Giving c a₀ last (.done (some (.moved q))) s (some s.answers)
  | stayed {s t} : c = .previous → s.answers = a₀ → Giving c a₀ last (.done t) s last
  | turnedDown {s submitted complaints} : c = .next submitted →
      Giving c a₀ last (.done (some (.invalid complaints))) s last
  | closed {s stage now} : s.phase.isTerminal = true → Giving c a₀ last stage s now

namespace Giving
variable [Grammars] {d : Document} {s s' : Session} {c : Call} {stage stage' : Stage} {a₀ : Answers}
  {last now : Option Answers}

/-- The section in which a call is decided. -/
theorem step_deciding (hp : s.phase.isActive = true) (ha : s.answers = a₀) (effect : Effect d s c.stage s' stage') :
    Giving c a₀ last stage' s' ((c.stage.held? d s).or last) := by
  cases c with
  | next submitted =>
    cases effect with
    | refused hnot =>
      rw [hp] at hnot
      cases hnot
    | rejected => exact turnedDown rfl
    | departed _ _ hd => exact leaving rfl (by rw [hd]; rfl)
  | set id v =>
    cases effect with
    | refused hnot =>
      rw [hp] at hnot
      cases hnot
    | recorded hi =>
      rw [Call.stage, Stage.held?, Session.record_of_active hi]
      refine recorded ⟨id, v, rfl⟩ ?_
      split
      · exact Or.inl ⟨rfl, hp⟩
      · exact Or.inr ⟨_, rfl⟩
  | previous =>
    cases effect with
    | refused hnot =>
      rw [hp] at hnot
      cases hnot
    | stayed => exact Giving.stayed rfl ha
    | returned => exact Giving.stayed rfl ha

/-- A section brings a call further, and may give answers to the cache. -/
theorem step (h : Giving c a₀ last stage s now) (effect : Effect d s stage s' stage')
    (hterm : s.phase.isTerminal = true → s'.phase.isTerminal = true) :
    Giving c a₀ last stage' s' ((stage.held? d s).or now) := by
  cases h with
  | deciding hp ha => exact step_deciding hp ha effect
  | recorded hset hstage =>
    rcases hstage with ⟨rfl, hp⟩ | ⟨t, rfl⟩
    · cases effect with
      | refused hnot =>
        rw [hp] at hnot
        cases hnot
      | rejected => exact recorded hset (Or.inr ⟨_, rfl⟩)
      | departed _ _ hd =>
        obtain ⟨id, v, rfl⟩ := hset
        exact leaving rfl (by rw [hd]; rfl)
    · exact absurd effect.rank_lt (Nat.not_lt_zero _)
  | leaving hback hd =>
    obtain ⟨destination, hd⟩ := Option.isSome_iff_exists.mp hd
    rcases effect.of_destination? hd with ⟨-, hd', -⟩ | ⟨rfl, rfl, rfl⟩
    · exact leaving hback (by rw [hd']; rfl)
    · cases destination with
      | page q => exact came hback
      | elsewhere | finish => exact closed rfl
  | came | stayed | turnedDown => exact absurd effect.rank_lt (Nat.not_lt_zero _)
  | closed hp => exact closed (hterm hp)

omit [Grammars] in
/-- What a call has given that is done while a page is active. -/
theorem of_done {t : Option Transition} {before : Run} {after : Run} (h : Giving c a₀ last (.done t) after.session now)
    (hp : after.session.phase.isActive = true) (ha : before.session.answers = a₀) :
    now = (if (⟨c, before, t, after⟩ : Played).isGiven then some after.session.answers else last) ∧
    ((⟨c, before, t, after⟩ : Played).Changes → (⟨c, before, t, after⟩ : Played).isTurnedDown = false →
      (⟨c, before, t, after⟩ : Played).isGiven = true) := by
  generalize hstage : Stage.done t = stage at h
  cases h with
  | deciding => cases c <;> cases hstage
  | recorded hset =>
    obtain ⟨id, v, rfl⟩ := hset
    exact ⟨rfl, fun _ _ => rfl⟩
  | leaving _ hd =>
    subst hstage
    cases hd
  | came hback =>
    cases hstage
    cases c with
    | next | set => exact ⟨rfl, fun _ _ => rfl⟩
    | previous => cases hback
  | stayed hc hsame =>
    subst hc
    exact ⟨rfl, fun hchanges _ => absurd (hsame.trans ha.symm) hchanges⟩
  | turnedDown hc =>
    subst hc
    cases hstage
    exact ⟨rfl, fun _ hnot => by cases hnot⟩
  | closed hterm =>
    rw [not_active_of_isTerminal hterm] at hp
    cases hp

end Giving

/-! ### What calls one after the other have given -/

section
variable [Grammars] {setup : Setup} {store : Entries Answers} {given : Answers} {log : List Passage} {r₀ r r' : Run}
  {n : Nat} {c : Call} {stage : Stage} {t : Option Transition} {a₀ : Answers} {last : Option Answers}
  {played : List Played}

omit [Grammars] in
theorem getLast?_held_concat (d : Document) (log : List Passage) (p : Passage) :
    (held d (log ++ [p])).getLast? = (p.stage.held? d p.session).or (held d log).getLast? := by
  rw [held, Cache.filterMap_concat, List.getLast?_append, held]
  cases p.stage.held? d p.session <;> rfl

theorem Completes.gives (h : Completes setup n r t r') (hr : Reaches setup (start setup store given) log r)
    (hn : r.calls[n]? = some stage) (giving : Giving c a₀ last stage r.session (held setup.document log).getLast?) :
    ∃ log', Reaches setup (start setup store given) log' r' ∧
      Giving c a₀ last (.done t) r'.session (held setup.document log').getLast? := by
  induction h generalizing log stage with
  | done hdone =>
    rw [hn] at hdone
    obtain rfl := Option.some.inj hdone
    exact ⟨log, hr, giving⟩
  | @step r r₁ r' t m hfor hm _ ih =>
    have hr₁ := hr.step m hm
    rcases move?_cases hm with ⟨hp, beside⟩ | ⟨k, held, stage', hp, advances⟩
    · rw [hp, Option.toList_none, List.append_nil] at hr₁
      exact ih hr₁ (beside.getElem? hn) (beside.session ▸ giving)
    · obtain rfl : m = .advance n := by
        cases m with
        | advance k => rw [eq_of_beq hfor]
        | call | deliver | cache | tick => cases hp
      obtain ⟨stage', advances⟩ := Advances.of_move? hm hn
      rw [passage?, hn, Option.map_some, Option.toList_some] at hr₁
      have regime := hr.regime (Regime.start setup store given)
      refine ih hr₁ advances.getElem?_self ?_
      rw [getLast?_held_concat]
      refine giving.step advances.effect fun hterm => ?_
      rw [Session.phase_of_core (regime.core_of_isTerminal hterm advances)]
      exact hterm

theorem Plays.inTurn (h : Plays setup r₀ played r) :
    InTurn setup r₀ (played.map fun p => (p.call, p.answer)) r := by
  induction h with
  | nil => exact .nil
  | concat _ hcall hdone ih =>
    rw [List.map_append]
    exact ih.concat hcall hdone

/-- While a page is active after a call, one was active before it. -/
theorem Plays.active_before {r₁ : Run} (h : Plays setup (start setup store given) played r)
    (hcall : r.move? setup (.call c) = some r₁) (hdone : Completes setup r.calls.length r₁ t r')
    (hp : r'.session.phase.isActive = true) : r.session.phase.isActive = true := by
  obtain ⟨log, hlog⟩ := h.reaches
  obtain ⟨later, hlater⟩ := hdone.reaches
  rcases h.inTurn.active_or_terminal Reaches.refl rfl with ⟨-, hactive⟩ | ⟨-, hterm⟩
  · exact hactive
  · have hcore := ((Reaches.refl.step _ hcall).trans hlater).core_of_isTerminal
      (hlog.regime (Regime.start setup store given)) hterm
    rw [← Session.phase_of_core hcore] at hterm
    rw [not_active_of_isTerminal hterm] at hp
    cases hp

/-- What one more call gives to the cache. -/
theorem Completes.giving {r₁ : Run} (hr : Reaches setup (start setup store given) log r)
    (hp : r.session.phase.isActive = true) (hcall : r.move? setup (.call c) = some r₁)
    (hdone : Completes setup r.calls.length r₁ t r') : ∃ log', Reaches setup (start setup store given) log' r' ∧
      Giving c r.session.answers (held setup.document log).getLast? (.done t) r'.session
        (held setup.document log').getLast? := by
  have hr₁ : Reaches setup (start setup store given) (log ++ []) r₁ := hr.step _ hcall
  rw [List.append_nil] at hr₁
  obtain rfl := Option.some.inj hcall
  exact hdone.gives hr₁ List.getElem?_concat_length (.deciding hp rfl)

/-- The answers given last are those after the last call that gave any. -/
theorem Plays.getLast?_held (h : Plays setup (start setup store given) played r)
    (hp : r.session.phase.isActive = true) : ∃ log, Reaches setup (start setup store given) log r ∧
      (held setup.document log).getLast? = lastGiven? played := by
  induction h with
  | nil => exact ⟨[], Reaches.refl, rfl⟩
  | @concat played c t r r₁ r' hplays hcall hdone ih =>
    have hbefore := hplays.active_before hcall hdone hp
    obtain ⟨log, hlog, hlast⟩ := ih hbefore
    obtain ⟨log', hlog', giving⟩ := hdone.giving hlog hbefore hcall
    refine ⟨log', hlog', ?_⟩
    rw [(giving.of_done hp rfl).1, hlast, lastGiven?, lastGiven?, List.filter_append, List.getLast?_append,
      List.filter_cons, List.filter_nil]
    split <;> rfl

/-- If the last call that changed the answers has not been turned down, the answers given last are those of the
session. -/
theorem Plays.lastGiven?_of_change {before after : List Played} {p : Played}
    (h : Plays setup (start setup store given) (before ++ p :: after) r) (hp : r.session.phase.isActive = true)
    (hchanges : p.Changes) (hsame : ∀ q ∈ after, ¬ q.Changes) (hdown : p.isTurnedDown = false) :
    lastGiven? (before ++ p :: after) = some r.session.answers := by
  generalize hplayed : before ++ p :: after = played at h
  induction h generalizing after with
  | nil => exact absurd hplayed (List.append_ne_nil_of_right_ne_nil _ (List.cons_ne_nil _ _))
  | @concat played c t r r₁ r' hplays hcall hdone ih =>
    have hbefore := hplays.active_before hcall hdone hp
    obtain ⟨log, hlog⟩ := hplays.reaches
    obtain ⟨log', hlog', giving⟩ := hdone.giving hlog hbefore hcall
    rw [lastGiven?, List.filter_append, List.getLast?_append, List.filter_cons, List.filter_nil]
    rcases List.eq_nil_or_concat after with rfl | ⟨after, q, rfl⟩
    · obtain ⟨rfl, hlast⟩ := List.append_inj' hplayed rfl
      obtain rfl := (List.cons.inj hlast).1
      rw [(giving.of_done hp rfl).2 hchanges hdown]
      rfl
    · rw [List.concat_eq_append] at hplayed hsame
      rw [← List.cons_append, ← List.append_assoc] at hplayed
      obtain ⟨hearlier, hlast⟩ := List.append_inj' hplayed rfl
      obtain rfl := (List.cons.inj hlast).1
      have hq := hsame _ (List.mem_append_right _ (List.mem_singleton_self _))
      have hlast := ih hbefore (fun q hq => hsame q (List.mem_append_left _ hq)) hearlier
      split
      · rfl
      · rw [lastGiven?] at hlast
        rw [List.getLast?_nil, Option.none_or, hlast, not_not.mp hq]

/-! ### What the store holds at rest -/

omit [Grammars] in
theorem writes_of_forall {turns : List Turn} (h : ∀ turn ∈ turns, ∃ w, turn = .write w) :
    turns = (Cache.writes turns).map .write := by
  induction turns with
  | nil => rfl
  | cons turn rest ih =>
    obtain ⟨w, rfl⟩ := h turn List.mem_cons_self
    exact congrArg (Turn.write w :: ·) (ih fun turn hturn => h turn (List.mem_cons_of_mem _ hturn))

omit [Grammars] in
/-- Once the cache of a session that has not ended is at rest, the store holds what was given to it last. -/
theorem Cached.entry_of_idle {turns : List Cache.Event} (works : ∀ turn, setup.conduct.works turn = true)
    (h : Cached setup store log turns r) (hp : r.session.phase.isTerminal = false) (hidle : r.cache.IsIdle) :
    r.entry setup = (held setup.document log).getLast?.or (store.get? setup.document.cacheKey) := by
  have hwrites := writes_of_forall (h.writing hp)
  rw [← h.given]
  rcases List.eq_nil_or_concat (Cache.writes (Cache.issued turns)) with hnil | ⟨writes, w, hlast⟩
  · have hdone : Cache.carriedOut turns = [] := by
      refine List.eq_nil_iff_forall_not_mem.mpr fun turn hturn => ?_
      have hissued := h.reaches.orderly.mem_issued_iff.mpr (Or.inl hturn)
      rw [hwrites, hnil] at hissued
      cases hissued
    have hstore : r.cache.store = Cache.applyAll (Cache.carriedOut turns) store := h.reaches.store_eq works
    rw [hnil, entry, hstore, hdone]
    rfl
  · rw [List.concat_eq_append] at hlast
    rw [hlast, List.map_append] at hwrites
    have hissued : .write w ∈ Cache.issued turns := by
      rw [hwrites]
      exact List.mem_append_right _ (List.mem_singleton_self _)
    have hcarried : .write w ∈ Cache.carriedOut turns := by
      refine (h.reaches.settled hidle hissued).2.mpr fun ho => ?_
      obtain ⟨before, o, after, rfl, -, -⟩ := h.reaches.dropped_of_overtaken hwrites ho
      exact h.undropped o (List.mem_append_right _ List.mem_cons_self)
    have hentry := h.reaches.get?_of_latest works hwrites hcarried
    have hkey : w.key = setup.document.cacheKey := h.keyed _ hissued
    rw [hkey] at hentry
    rw [hlast, List.map_append, List.getLast?_append]
    exact hentry

/-- Take calls one after the other after which a page is active, over a store that never fails. The cache comes to rest;
and whenever it is at rest, the store holds for the document the answers that the session had after the last call that
recorded one or went on to another page, or what it held at the start if there was no such call. A session that is
started over that store, without answers of its own, begins with what it holds. So it begins with the answers of the
first session if the last call that changed those was not a request to go on that was turned down. -/
theorem resumed_from_last_given (works : ∀ turn, setup.conduct.works turn = true)
    (h : Plays setup (start setup store given) played r) (hp : r.session.phase.isActive = true) :
    (∃ r', Waits setup r r' ∧ r'.cache.IsIdle) ∧
    ∀ r', Waits setup r r' → r'.cache.IsIdle →
      r'.entry setup = (lastGiven? played).or (store.get? setup.document.cacheKey) ∧
      (∀ setup', setup'.document = setup.document → setup'.conduct.reads = true →
        (start setup' r'.cache.store ∅).session.answers = (r'.entry setup).getD ∅) ∧
      ∀ before p after, played = before ++ p :: after → p.Changes → (∀ q ∈ after, ¬ q.Changes) →
        p.isTurnedDown = false → r'.entry setup = some r.session.answers := by
  refine ⟨waits_rest setup r, fun r' hwaits hidle => ?_⟩
  have hentry : r'.entry setup = (lastGiven? played).or (store.get? setup.document.cacheKey) := by
    obtain ⟨log, hlog, hlast⟩ := h.getLast?_held hp
    have hr' := hlog.trans hwaits.reaches
    rw [List.append_nil] at hr'
    obtain ⟨turns, cached⟩ := hr'.cached
    have hgoing : r'.session.phase.isTerminal = false := by
      rw [hwaits.still.session]
      exact eq_false_of_ne_true fun hterm => by
        rw [not_active_of_isTerminal hterm] at hp
        cases hp
    rw [cached.entry_of_idle works hgoing hidle, hlast]
  refine ⟨hentry, fun setup' hd hreads => ?_, fun before p after hplayed hchanges hsame hdown => ?_⟩
  · simp only [start, Cache.load, hd, hreads, if_true, entry]
    rfl
  · subst hplayed
    rw [hentry, h.lastGiven?_of_change hp hchanges hsame hdown]
    rfl

end

/-- A page with a question that has to be answered and one that may be. -/
def twoQuestions : Setup where
  document :=
    { pages := [{ id := "first", blocks := [{ id := "needed", kind := .textInput, validations := [.required] },
        { id := "extra", kind := .textInput }] }] }
  window := 300

open scoped Grammars in
/-- An answer that is recorded is found by the next session. -/
theorem resumed_from_recorded : ∃ p r r', Plays twoQuestions (start twoQuestions ∅ ∅) [p] r ∧
    p.call = .set "extra" (.text "x") ∧ Waits twoQuestions r r' ∧ r'.cache.IsIdle ∧
    (start twoQuestions r'.cache.store ∅).session.answers.get? "extra" = some (.text "x") := by
  obtain ⟨p, r, h, hp, hcall, hbefore, hafter, hanswer⟩ : ∃ p r, Plays twoQuestions (start twoQuestions ∅ ∅) [p] r ∧
      r.session.phase = .active 0 ∧ p.call = .set "extra" (.text "x") ∧ p.before.session.answers = ∅ ∧ p.after = r ∧
      r.session.answers.get? "extra" = some (.text "x") :=
    ⟨_, _, .concat .nil rfl (.of_follow? [.advance 0] rfl rfl rfl), rfl, rfl, rfl, rfl, rfl⟩
  have hchanges : p.Changes := fun hsame => by
    rw [hafter, hbefore] at hsame
    rw [hsame] at hanswer
    cases hanswer
  have hdown : p.isTurnedDown = false := by
    simp only [Played.isTurnedDown, hcall]
  obtain ⟨⟨r', hwaits, hidle⟩, hall⟩ := resumed_from_last_given (fun _ => rfl) h (by rw [hp]; rfl)
  obtain ⟨-, hnew, hlast⟩ := hall r' hwaits hidle
  have hsession := hnew twoQuestions rfl rfl
  rw [hlast [] p [] rfl hchanges (fun _ hq => absurd hq List.not_mem_nil) hdown, Option.getD_some] at hsession
  exact ⟨p, r, r', h, hcall, hwaits, hidle, hsession ▸ hanswer⟩

open scoped Grammars in
/-- An answer that comes with a request to go on is not found by the next session, if the request is turned down for
another answer that is missing. -/
theorem turned_down_is_not_resumed : ∃ p r r', Plays twoQuestions (start twoQuestions ∅ ∅) [p] r ∧
    r.session.phase.isActive = true ∧ p.Changes ∧ Waits twoQuestions r r' ∧ r'.clock = r.clock + twoQuestions.window ∧
    r'.cache.IsIdle ∧ r.session.answers.get? "extra" = some (.text "x") ∧
    r'.entry twoQuestions ≠ some r.session.answers ∧
    (start twoQuestions r'.cache.store ∅).session.answers ≠ r.session.answers := by
  obtain ⟨complaints, r, h, hp, hcache, hanswer⟩ : ∃ complaints r, Plays twoQuestions (start twoQuestions ∅ ∅)
        [⟨.next ((∅ : Answers).insert "extra" (.text "x")), start twoQuestions ∅ ∅, some (.invalid complaints), r⟩] r ∧
      r.session.phase = .active 0 ∧ r.cache = {} ∧ r.session.answers.get? "extra" = some (.text "x") :=
    ⟨_, _, .concat .nil rfl (.of_follow? [.advance 0] rfl rfl rfl), rfl, rfl, rfl⟩
  have differs : ∀ answers : Answers, answers.get? "extra" = none → answers ≠ r.session.answers := by
    rintro _ hnone rfl
    rw [hnone] at hanswer
    cases hanswer
  refine ⟨_, r, _, h, by rw [hp]; rfl, (differs ∅ rfl).symm, waits_time twoQuestions r _, rfl, ?_, hanswer, ?_, ?_⟩
  · simp only [hcache]
    rfl
  · simp only [entry, hcache]
    exact (Option.some_ne_none _).symm
  · simp only [start, hcache]
    exact differs ∅ rfl

end Questionnaire.Run
