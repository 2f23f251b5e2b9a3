import Mathlib.Data.List.Infix
import Questionnaire.Grammars.Builtin
import Questionnaire.Proofs.Session.Derivation
import Questionnaire.Proofs.Session.SingleFlight

/-!
# Going back undoes going on

The pages to go back to and the page that is shown are a path. A call that runs to its end with no other call in
between adds a page to the path, takes one away or leaves it as it is, and says which in its answer; or it ends the
session. So calls that go on as often as back, and never back past where they began, come out on the path on which
they began: at the same page, with the same variables, hidden blocks and pages to go back to.
-/

namespace Questionnaire

def Call.isBack : Call → Bool
  | previous => true
  | _ => false

theorem Call.isBack_iff {c : Call} : c.isBack = true ↔ c.stage = .back := by
  cases c <;> simp [isBack, stage]

namespace Transition

/-- The call is answered that the session has come to a page. -/
def isMove : Transition → Bool
  | moved _ => true
  | _ => false

end Transition

namespace Session

/-- The pages to go back to, and then the page of the session. -/
def path (s : Session) : List Snapshot := s.pathTo s.index

theorem SamePlace.path {s s' : Session} (h : s.SamePlace s') : s'.path = s.path := by
  rw [Session.path, h.index, h.pathTo, Session.path]

theorem pathTo_of_core {s s' : Session} {i : Nat} (h : s'.core = s.core) : s'.pathTo i = s.pathTo i := by
  have := congrArg (pathTo i) h
  exact this

theorem SamePlace.refl (s : Session) : s.SamePlace s := ⟨rfl, rfl, rfl, rfl, rfl⟩

theorem SamePlace.trans {s₁ s₂ s₃ : Session} (h : s₁.SamePlace s₂) (h' : s₂.SamePlace s₃) : s₁.SamePlace s₃ :=
  ⟨h'.phase.trans h.phase, h'.index.trans h.index, h'.vars.trans h.vars, h'.hidden.trans h.hidden,
    h'.history.trans h.history⟩

/-- On the same path, the sessions are at the same place. -/
theorem SamePlace.of_path {s s' : Session} (hp : s.phase = .active s.index) (hp' : s'.phase = .active s'.index)
    (h : s'.path = s.path) : s.SamePlace s' := by
  obtain ⟨hhistory, hlast⟩ := List.append_inj' h rfl
  obtain ⟨hindex, hvars, hhidden⟩ := Snapshot.mk.inj (List.cons.inj hlast).1
  exact ⟨by rw [hp, hp', hindex], hindex, hvars, hhidden, List.reverse_injective hhistory⟩

end Session

namespace Run

/-! ### One call -/

/-- What a call that was made at session `s₀` has come to with its answer. -/
inductive Answered (s₀ : Session) (c : Call) : Option Transition → Session → Prop
  | stayed {t s} : s₀.SamePlace s → t.any Transition.isMove = false → t.any Transition.isEnd = false →
      Answered s₀ c t s
  | moved {q s} : c.isBack = false → s.phase.isActive = true → (∃ snapshot, s.path = s₀.path ++ [snapshot]) →
      Answered s₀ c (some (.moved q)) s
  | returned {q s} : c.isBack = true → s.phase.isActive = true → (∃ snapshot, s₀.path = s.path ++ [snapshot]) →
      Answered s₀ c (some (.moved q)) s
  | ended {t s} : t.isEnd = true → s.phase.isTerminal = true → Answered s₀ c (some t) s

/-- How far a call has come that was made at session `s₀`, while no other call went through a section. -/
inductive Course (s₀ : Session) (c : Call) : Stage → Session → Prop
  | deciding {stage s} : s₀.SamePlace s → stage = c.stage ∨ stage = .depart ∅ ∧ c.isBack = false →
      Course s₀ c stage s
  | onward {stage s q} : c.isBack = false → stage.destination? = some (.page q) →
      (∃ snapshot, s.pathTo q.index = s₀.path ++ [snapshot]) → Course s₀ c stage s
  | leaving {stage s destination} : stage.destination? = some destination → (∀ q, destination ≠ .page q) →
      Course s₀ c stage s
  | closing {stage s} : stage.redirect?.isSome ∨ (∃ g redirect, stage = .clear g redirect) →
      s.phase.isTerminal = true → Course s₀ c stage s
  | done {t s} : Answered s₀ c t s → Course s₀ c (.done t) s

namespace Course
variable [Grammars] {d : Document} {s₀ s s' : Session} {c : Call} {stage stage' : Stage}

omit [Grammars] in
theorem answered {t : Option Transition} (h : Course s₀ c (.done t) s) : Answered s₀ c t s := by
  cases h with
  | done h => exact h
  | deciding _ hstage =>
    rcases hstage with hstage | ⟨hstage, -⟩
    · cases c <;> cases hstage
    · cases hstage
  | onward _ hd | leaving hd => cases hd
  | closing hstage =>
    rcases hstage with hstage | ⟨g, redirect, hstage⟩
    · cases hstage
    · cases hstage

/-- A deciding section stays, leaves the page, or goes back a page. -/
theorem step_deciding (same : s₀.SamePlace s) (hstage : stage = c.stage ∨ stage = .depart ∅ ∧ c.isBack = false)
    (h₀ : s₀.phase = .active s₀.index) (effect : Effect d s stage s' stage')
    (hpage : ∀ i snapshot rest, s.phase = .active i → s.history = snapshot :: rest →
      ∃ page, d.pages[snapshot.index]? = some page) : Course s₀ c stage' s' := by
  have hs : s.phase = .active s₀.index := same.phase.trans h₀
  have not_isBack : stage ≠ .back → c.isBack = false := by
    intro hne
    rcases hstage with hstage | ⟨-, hback⟩
    · exact eq_false_of_ne_true fun hback => hne (hstage.trans (Call.isBack_iff.mp hback))
    · exact hback
  cases effect with
  | refused ha =>
    rw [hs] at ha
    cases ha
  | @recorded i id v hi =>
    have same' : s₀.SamePlace { s with answers := s.answers.insert id v } := same.trans ⟨rfl, rfl, rfl, rfl, rfl⟩
    split
    · exact deciding same' (Or.inr ⟨rfl, not_isBack nofun⟩)
    · exact done (.stayed same' rfl rfl)
  | rejected => exact done (.stayed (same.trans ⟨rfl, rfl, rfl, rfl, rfl⟩) rfl rfl)
  | @departed i submitted _ hi hv hd =>
    have hback : c.isBack = false := not_isBack nofun
    rw [hs] at hi
    cases hi
    cases htoward : s.toward d s₀.index submitted with
    | page q =>
      rw [htoward] at hd
      refine onward hback hd ⟨⟨q.index, (s.left d s₀.index submitted).vars, (s.left d s₀.index submitted).hidden⟩, ?_⟩
      rw [Session.pathTo_left, same.pathTo]
      rfl
    | elsewhere | finish =>
      rw [htoward] at hd
      exact leaving hd nofun
  | stayed => exact done (.stayed same rfl rfl)
  | @returned i snapshot rest hi hh =>
    have hback : c.isBack = true := by
      rcases hstage with hstage | ⟨hstage, -⟩
      · exact Call.isBack_iff.mpr hstage.symm
      · cases hstage
    obtain ⟨page, hp⟩ := hpage i snapshot rest hi hh
    rw [hp]
    refine done (.returned hback rfl ⟨⟨s.index, s.vars, s.hidden⟩, ?_⟩)
    rw [← same.path, Session.path, Session.pathTo_of_snapshot hh]
    rfl
  | noted | arrived | settled | awaited | told | cleared =>
    rcases hstage with hstage | ⟨hstage, -⟩
    · cases c <;> cases hstage
    · cases hstage

/-- A section brings a call on its course. -/
theorem step (h : Course s₀ c stage s) (h₀ : s₀.phase = .active s₀.index) (effect : Effect d s stage s' stage')
    (hpage : ∀ i snapshot rest, s.phase = .active i → s.history = snapshot :: rest →
      ∃ page, d.pages[snapshot.index]? = some page)
    (hclear : ∀ g redirect, stage = .clear g redirect → ∃ t, t.isEnd = true ∧ stage' = .done (some t)) :
    Course s₀ c stage' s' := by
  cases h with
  | deciding same hstage => exact step_deciding same hstage h₀ effect hpage
  | onward hback hd hpath =>
    rcases effect.of_destination? hd with ⟨hcore, hd', -⟩ | ⟨-, rfl, rfl⟩
    · exact onward hback hd' (Session.pathTo_of_core hcore ▸ hpath)
    · exact done (.moved hback rfl hpath)
  | leaving hd hpage =>
    rcases effect.of_destination? hd with ⟨-, hd', -⟩ | ⟨-, rfl, rfl⟩
    · exact leaving hd' hpage
    · rename_i destination
      cases destination with
      | page q => exact absurd rfl (hpage q)
      | elsewhere | finish => exact closing (Or.inl rfl) rfl
  | closing hstage hp =>
    cases effect with
    | settled | awaited => exact closing (Or.inl rfl) hp
    | told => exact closing (Or.inr ⟨_, _, rfl⟩) hp
    | cleared =>
      obtain ⟨t, ht, hdone⟩ := hclear _ _ rfl
      exact hdone ▸ done (.ended ht hp)
    | refused _ hr =>
      rcases hstage with hstage | ⟨g, redirect, rfl⟩
      · cases stage <;> simp [Stage.redirect?, Stage.refusal?] at hstage hr
      · cases hr
    | recorded | rejected | departed | stayed | returned | noted | arrived =>
      rcases hstage with hstage | ⟨g, redirect, hstage⟩ <;> cases hstage
  | done => exact absurd effect.rank_lt (Nat.not_lt_zero _)

end Course

/-! ### Calls one after the other -/

/-- Call `n` goes through a section, or the cache, the sink or the clock goes on by itself. -/
def Move.isFor (n : Nat) : Move → Bool
  | call _ => false
  | advance k => k == n
  | deliver _ | cache _ | tick => true

/-- Call `n` goes on to its end and is answered, while nothing else happens but what goes on by itself. -/
inductive Completes [Grammars] (setup : Setup) (n : Nat) : Run → Option Transition → Run → Prop
  | done {r t} : r.calls[n]? = some (.done t) → Completes setup n r t r
  | step {r r₁ r' t} (m : Move) : m.isFor n = true → r.move? setup m = some r₁ → Completes setup n r₁ t r' →
      Completes setup n r t r'

/-- Calls are made one after the other, each one when the one before has been answered, with the answers. -/
inductive InTurn [Grammars] (setup : Setup) (r₀ : Run) : List (Call × Option Transition) → Run → Prop
  | nil : InTurn setup r₀ [] r₀
  | concat {answered c t r r₁ r'} : InTurn setup r₀ answered r → r.move? setup (.call c) = some r₁ →
      Completes setup r.calls.length r₁ t r' → InTurn setup r₀ (answered ++ [(c, t)]) r'

/-- How often calls went on to another page. -/
def forwards (answered : List (Call × Option Transition)) : Nat :=
  answered.countP fun a => !a.1.isBack && a.2.any Transition.isMove

/-- How often calls went back to a page. -/
def backs (answered : List (Call × Option Transition)) : Nat :=
  answered.countP fun a => a.1.isBack && a.2.any Transition.isMove

theorem forwards_concat (answered : List (Call × Option Transition)) (c : Call) (t : Option Transition) :
    forwards (answered ++ [(c, t)]) = forwards answered + (!c.isBack && t.any Transition.isMove).toNat := by
  rw [forwards, List.countP_append, List.countP_singleton, forwards]
  cases !c.isBack && t.any Transition.isMove <;> rfl

theorem backs_concat (answered : List (Call × Option Transition)) (c : Call) (t : Option Transition) :
    backs (answered ++ [(c, t)]) = backs answered + (c.isBack && t.any Transition.isMove).toNat := by
  rw [backs, List.countP_append, List.countP_singleton, backs]
  cases c.isBack && t.any Transition.isMove <;> rfl

section
variable [Grammars] {setup : Setup} {store : Entries Answers} {given : Answers} {log : List Passage} {r₀ r r' : Run}
  {n : Nat} {s₀ : Session} {c : Call} {stage : Stage} {t : Option Transition}

theorem move?_clear {g : Nat} {redirect : Option String} (hm : r.move? setup (.advance n) = some r')
    (hn : r.calls[n]? = some (.clear g redirect)) :
    ∃ t : Transition, t.isEnd = true ∧ r'.calls[n]? = some (.done (some t)) := by
  obtain ⟨r₁, stage', acts, rfl⟩ := Acts.of_move? hm hn
  have advances := acts.advances hn
  cases acts with
  | refused _ hr => cases hr
  | cleared => exact ⟨.ended redirect, by cases redirect <;> rfl, advances.getElem?_self⟩

theorem Completes.reaches (h : Completes setup n r t r') : ∃ log, Reaches setup r log r' := by
  induction h with
  | done => exact ⟨[], Reaches.refl⟩
  | step m _ hm _ ih =>
    obtain ⟨log, hlog⟩ := ih
    exact ⟨_, (Reaches.refl.step m hm).trans hlog⟩

theorem InTurn.reaches {answered : List (Call × Option Transition)} (h : InTurn setup r answered r') :
    ∃ log, Reaches setup r log r' := by
  induction h with
  | nil => exact ⟨[], Reaches.refl⟩
  | concat _ hcall hdone ih =>
    obtain ⟨log, hlog⟩ := ih
    obtain ⟨log', hlog'⟩ := hdone.reaches
    exact ⟨_, (hlog.step _ hcall).trans hlog'⟩

/-- A call that is on its course comes to an answer of its course. -/
theorem Completes.answered (h : Completes setup n r t r') (hr : Reaches setup (start setup store given) log r)
    (h₀ : s₀.phase = .active s₀.index) (hn : r.calls[n]? = some stage) (course : Course s₀ c stage r.session) :
    Answered s₀ c t r'.session := by
  induction h generalizing log stage with
  | done hdone =>
    rw [hn] at hdone
    obtain rfl := Option.some.inj hdone
    exact course.answered
  | @step r r₁ r' t m hm hmove _ ih =>
    have hr₁ := hr.step m hmove
    rcases move?_cases hmove with ⟨-, beside⟩ | ⟨k, _, _, hp, -⟩
    · exact ih hr₁ (beside.getElem? hn) (beside.session ▸ course)
    · obtain rfl : m = .advance n := by
        cases m with
        | advance k => rw [eq_of_beq hm]
        | call | deliver | cache | tick => cases hp
      obtain ⟨stage', advances⟩ := Advances.of_move? hmove hn
      refine ih hr₁ advances.getElem?_self (course.step h₀ advances.effect ?_ ?_)
      · intro i snapshot rest
        exact hr.derived.page_of_snapshot
      · rintro g redirect rfl
        obtain ⟨t, ht, hdone⟩ := move?_clear hmove hn
        rw [advances.getElem?_self] at hdone
        exact ⟨t, ht, Option.some.inj hdone⟩

theorem Reaches.phase_index (h : Reaches setup (start setup store given) log r)
    (ha : r.session.phase.isActive = true) : r.session.phase = .active r.session.index := by
  obtain ⟨i, hi⟩ := Phase.isActive_iff.mp ha
  rw [h.index i (Or.inl hi), hi]

/-- What a call has come to that is made while a page is active. -/
theorem Completes.answered_of_active {r₁ : Run} (hr : Reaches setup (start setup store given) log r)
    (ha : r.session.phase.isActive = true) (hcall : r.move? setup (.call c) = some r₁)
    (h : Completes setup r.calls.length r₁ t r') : Answered r.session c t r'.session := by
  have hr₁ := hr.step _ hcall
  obtain rfl := Option.some.inj hcall
  exact h.answered hr₁ (hr.phase_index ha) List.getElem?_concat_length
    (.deciding (Session.SamePlace.refl _) (Or.inl rfl))

/-- A page is active after calls one after the other, unless one of them has ended the session. -/
theorem InTurn.active_or_terminal {answered : List (Call × Option Transition)}
    (hr : Reaches setup (start setup store given) log r) (ha : r.session.phase.isActive = true)
    (h : InTurn setup r answered r') :
    (∀ a ∈ answered, a.2.any Transition.isEnd = false) ∧ r'.session.phase.isActive = true ∨
      (∃ a ∈ answered, a.2.any Transition.isEnd = true) ∧ r'.session.phase.isTerminal = true := by
  induction h with
  | nil => exact Or.inl ⟨nofun, ha⟩
  | @concat answered c t r₁ r₂ r₃ h hcall hdone ih =>
    obtain ⟨between, hbetween⟩ := h.reaches
    have hr₁ := hr.trans hbetween
    rcases ih with ⟨hnone, hactive⟩ | ⟨⟨a, hmem, hend⟩, hterminal⟩
    · have going : t.any Transition.isEnd = false → ∀ a ∈ answered ++ [(c, t)], a.2.any Transition.isEnd = false := by
        intro ht a hmem
        rcases List.mem_append.mp hmem with hmem | hmem
        · exact hnone a hmem
        · rw [List.mem_singleton.mp hmem]
          exact ht
      cases hdone.answered_of_active hr₁ hactive hcall with
      | stayed same _ hend =>
        rw [same.phase]
        exact Or.inl ⟨going hend, hactive⟩
      | moved _ hactive' | returned _ hactive' => exact Or.inl ⟨going rfl, hactive'⟩
      | ended hend hterminal =>
        exact Or.inr ⟨⟨_, List.mem_append_right _ (List.mem_singleton_self _), hend⟩, hterminal⟩
    · refine Or.inr ⟨⟨a, List.mem_append_left _ hmem, hend⟩, ?_⟩
      obtain ⟨later, hlater⟩ := hdone.reaches
      have hcore := ((Reaches.refl.step _ hcall).trans hlater).core_of_isTerminal
        (hr₁.regime (Regime.start setup store given)) hterminal
      rw [Session.phase_of_core hcore]
      exact hterminal

/-- The path is longer by the calls that went on and shorter by those that went back. -/
theorem InTurn.path {answered : List (Call × Option Transition)}
    (hr : Reaches setup (start setup store given) log r) (ha : r.session.phase.isActive = true)
    (h : InTurn setup r answered r') (hpast : ∀ first, first <+: answered → backs first ≤ forwards first)
    (hnone : ∀ a ∈ answered, a.2.any Transition.isEnd = false) :
    ∃ later, r'.session.path = r.session.path ++ later ∧ later.length + backs answered = forwards answered := by
  induction h with
  | nil => exact ⟨[], (List.append_nil _).symm, rfl⟩
  | @concat answered c t r₁ r₂ r₃ h hcall hdone ih =>
    obtain ⟨between, hbetween⟩ := h.reaches
    have hactive : r₁.session.phase.isActive = true := by
      rcases h.active_or_terminal hr ha with ⟨-, hactive⟩ | ⟨⟨a, hmem, hend⟩, -⟩
      · exact hactive
      · rw [hnone a (List.mem_append_left _ hmem)] at hend
        cases hend
    obtain ⟨later, hpath, hlength⟩ := ih
      (fun first hfirst => hpast first (hfirst.trans (List.prefix_append _ _)))
      fun a hmem => hnone a (List.mem_append_left _ hmem)
    have hbalance := hpast _ (List.prefix_refl _)
    rw [backs_concat, forwards_concat] at hbalance ⊢
    cases hdone.answered_of_active (hr.trans hbetween) hactive hcall with
    | stayed same hmove =>
      refine ⟨later, same.path.trans hpath, ?_⟩
      rw [hmove, Bool.and_false, Bool.and_false]
      exact hlength
    | moved hback _ hlonger =>
      obtain ⟨snapshot, hlonger⟩ := hlonger
      refine ⟨later ++ [snapshot], by rw [hlonger, hpath, List.append_assoc], ?_⟩
      rw [hback, List.length_append, List.length_singleton]
      simp only [Option.any_some, Transition.isMove, Bool.and_true, Bool.not_false, Bool.toNat_false, Bool.toNat_true]
      omega
    | returned hback _ hshorter =>
      obtain ⟨snapshot, hshorter⟩ := hshorter
      rw [hback] at hbalance ⊢
      simp only [Option.any_some, Transition.isMove, Bool.and_true, Bool.not_true, Bool.toNat_false,
        Bool.toNat_true] at hbalance ⊢
      -- There is a page to give up that was not there at first, since the calls went on more often than back so far.
      rcases List.eq_nil_or_concat later with rfl | ⟨later, last, rfl⟩
      · rw [List.length_nil] at hlength
        omega
      · rw [List.concat_eq_append] at hpath hlength
        rw [hshorter, ← List.append_assoc] at hpath
        rw [List.length_append, List.length_singleton] at hlength
        exact ⟨later, (List.append_inj' hpath rfl).1, by omega⟩
    | ended hend =>
      have := hnone _ (List.mem_append_right _ (List.mem_singleton_self _))
      rw [Option.any_some, hend] at this
      cases this

/-- From every state that a run can come to in which a page is active: calls one after the other, among which those
that went back to a page are never more than those that went on to one and in the end as many, leave the session at
the page where it was, with the same variables, hidden blocks and pages to go back to, unless one of them was answered
that the session has ended, and then it has. Where there is no page to go back to, a call to go back is ignored and
changes nothing. -/
theorem back_undoes_forward (hr : Reaches setup (start setup store given) log r)
    (ha : r.session.phase.isActive = true) :
    (∀ answered r', InTurn setup r answered r' → (∀ first, first <+: answered → backs first ≤ forwards first) →
      backs answered = forwards answered →
      ((∀ a ∈ answered, a.2.any Transition.isEnd = false) →
        r'.session.phase.isActive = true ∧ r.session.SamePlace r'.session) ∧
      ((∃ a ∈ answered, a.2.any Transition.isEnd = true) → r'.session.phase.isTerminal = true)) ∧
    (r.session.history = [] → ∀ n, r.calls[n]? = some .back →
      r.move? setup (.advance n) = some { r with calls := r.calls.set n (.done (some .ignored)) }) := by
  refine ⟨fun answered r' h hpast heven => ?_, fun hempty n hn => ?_⟩
  · rcases h.active_or_terminal hr ha with ⟨hnone, hactive⟩ | ⟨⟨a, hmem, hend⟩, hterminal⟩
    · refine ⟨fun _ => ⟨hactive, ?_⟩, fun ⟨a, hmem, hend⟩ => ?_⟩
      · obtain ⟨later, hpath, hlength⟩ := h.path hr ha hpast hnone
        obtain rfl : later = [] := List.eq_nil_of_length_eq_zero (by omega)
        rw [List.append_nil] at hpath
        obtain ⟨between, hbetween⟩ := h.reaches
        exact .of_path (hr.phase_index ha) ((hr.trans hbetween).phase_index hactive) hpath
      · rw [hnone a hmem] at hend
        cases hend
    · refine ⟨fun hnone => ?_, fun _ => hterminal⟩
      rw [hnone a hmem] at hend
      cases hend
  · obtain ⟨i, hi⟩ := Phase.isActive_iff.mp ha
    exact (Acts.stayed hi hempty).move? hn

theorem Completes.of_follow? (ms : List Move) (hms : ms.all (Move.isFor n) = true)
    (h : r.follow? setup ms = some (log, r')) (hdone : r'.calls[n]? = some (.done t)) : Completes setup n r t r' := by
  induction ms generalizing r log with
  | nil =>
    obtain ⟨-, rfl⟩ := Prod.mk.inj (Option.some.inj h)
    exact .done hdone
  | cons m ms ih =>
    simp only [follow?, Option.bind_eq_bind, Option.bind_eq_some_iff, Option.pure_def, Option.some.injEq,
      Prod.mk.injEq] at h
    obtain ⟨r₁, hm, ⟨log', r₂⟩, h', -, rfl⟩ := h
    rw [List.all_cons, Bool.and_eq_true] at hms
    exact .step m hms.1 hm (ih hms.2 h')

end

open scoped Grammars in
/-- On to the second page and back. -/
theorem back_undoes_forward_of_two : ∃ answered r, InTurn twoPages (start twoPages ∅ ∅) answered r ∧
    answered.length = 2 ∧ forwards answered = 1 ∧ (start twoPages ∅ ∅).session.SamePlace r.session := by
  obtain ⟨answered, r, h, heq⟩ : ∃ answered r, InTurn twoPages (start twoPages ∅ ∅) answered r ∧
      answered = [(.next ∅, some (.moved ⟨"second", 1, ""⟩)), (.previous, some (.moved ⟨"first", 0, ""⟩))] :=
    ⟨_, _, .concat (.concat .nil rfl (.of_follow? [.advance 0, .advance 0] rfl rfl rfl)) rfl
      (.of_follow? [.advance 1, .tick] rfl rfl rfl), rfl⟩
  have balanced : ∀ first, first <+: answered → backs first ≤ forwards first := fun first hfirst => by
    rw [heq, ← List.mem_inits] at hfirst
    revert first
    decide
  obtain ⟨undone, -⟩ := back_undoes_forward (Reaches.refl : Reaches twoPages (start twoPages ∅ ∅) [] _) rfl
  subst heq
  refine ⟨_, r, h, rfl, rfl, ((undone _ r h balanced rfl).1 ?_).2⟩
  decide

/-- One empty page. -/
def onePage : Setup where
  document := { id := "d", pages := [{ id := "p1" }] }
  window := 300

open scoped Grammars in
/-- The end is not undone: to go on from the only page goes neither on to a page nor back, and the session is not
where it was. -/
theorem end_is_not_undone : ∃ answered r, InTurn onePage (start onePage ∅ ∅) answered r ∧
    (start onePage ∅ ∅).session.phase.isActive = true ∧
    (∀ first, first <+: answered → backs first ≤ forwards first) ∧ backs answered = forwards answered ∧
    ¬ (start onePage ∅ ∅).session.SamePlace r.session := by
  obtain ⟨r, h, hp⟩ : ∃ r, InTurn onePage (start onePage ∅ ∅) [(.next ∅, some .completed)] r ∧
      r.session.phase = .completed :=
    ⟨_, .concat .nil rfl (.of_follow? [.advance 0, .advance 0, .advance 0, .advance 0, .advance 0, .cache .serve,
      .cache .finish, .advance 0] rfl rfl rfl), rfl⟩
  refine ⟨_, r, h, rfl, fun first hfirst => ?_, rfl, fun same => ?_⟩
  · exact hfirst.sublist.countP_le.trans (Nat.zero_le _)
  · have := same.phase
    rw [hp] at this
    cases this

end Run

end Questionnaire
