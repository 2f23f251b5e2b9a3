import Questionnaire.Proofs.Session.Sections
import Questionnaire.Session.Run

/-!
# What a call does at a stage

`Run.Acts` lists what the section of a call can do to a run, with all that has to hold for it: one case for each way
through `Run.advance?`. Each case is what the call does, and one of them applies unless the call has to wait. What a
section does to the session, to its cache, to the submissions and to what the observer was told is read off the cases.
-/

namespace Questionnaire

/-- What a call answers whose deciding section is refused: nothing for an answer that is to be recorded. -/
def Stage.refusal? : Stage → Option (Option Transition)
  | record _ _ => some none
  | depart _ | back => some (some .ignored)
  | _ => none

/-- The answer of a call that has brought the session to its end. -/
def Transition.ended : Option String → Transition
  | some url => redirected url
  | none => completed

/-- The stage of a call that has left a page, with the submission that it made. -/
def Destination.noted (destination : Destination) : Option Nat → Stage
  | some n => .note n destination
  | none => .arrive destination

namespace Session

/-- The page as it is completed with more answers. -/
def completion (d : Document) (i : Nat) (submitted : Answers) (page : Page) (s : Session) : Completion :=
  ⟨page.ref i, answersOf (s.visible d i) (s.answers.extend submitted)⟩

end Session

namespace Run

/-- The run once page `i` has been left with more answers, and the submission that is made. -/
def leave [Grammars] (setup : Setup) (i : Nat) (submitted : Answers) (page : Page) (r : Run) : Run × Option Nat :=
  { r with session := r.session.left setup.document i submitted }.complete setup
    (r.session.completion setup.document i submitted page)

/-- What the section of a call at a stage does to a run, and the stage that the call comes to. -/
inductive Acts [Grammars] (setup : Setup) (r : Run) : Stage → Run → Stage → Prop
  | refused {stage t} : r.session.phase.isActive = false → stage.refusal? = some t → Acts setup r stage r (.done t)
  | recorded {i id v} : r.session.phase = .active i →
      Acts setup r (.record id v)
        ({ r with session := { r.session with answers := r.session.answers.insert id v } }.cacheAnswers setup)
        (if r.session.advancesOn setup.document i id then .depart ∅ else .done none)
  | rejected {i submitted complaints} : r.session.phase = .active i →
      validate (r.session.visible setup.document i) (r.session.answers.extend submitted) = some complaints →
      Acts setup r (.depart submitted)
        { r with session :=
          { r.session with answers := r.session.answers.extend submitted, complaints := some complaints } }
        (.done (some (.invalid complaints)))
  /-- There is no such page, so that nothing of it is completed. -/
  | vacated {i submitted} : r.session.phase = .active i →
      validate (r.session.visible setup.document i) (r.session.answers.extend submitted) = none →
      setup.document.pages[i]? = none →
      Acts setup r (.depart submitted) { r with session := r.session.left setup.document i submitted }
        (.arrive (r.session.toward setup.document i submitted))
  | departed {i submitted page} : r.session.phase = .active i →
      validate (r.session.visible setup.document i) (r.session.answers.extend submitted) = none →
      setup.document.pages[i]? = some page →
      Acts setup r (.depart submitted) (r.leave setup i submitted page).1
        ((r.session.toward setup.document i submitted).noted (r.leave setup i submitted page).2)
  | stayed {i} : r.session.phase = .active i → r.session.history = [] →
      Acts setup r .back r (.done (some .ignored))
  | returned {i snapshot rest page} : r.session.phase = .active i → r.session.history = snapshot :: rest →
      setup.document.pages[snapshot.index]? = some page →
      Acts setup r .back
        ({ r with session := r.session.restored snapshot rest }.tell (.changed (page.ref snapshot.index)))
        (.done (some (.moved (page.ref snapshot.index))))
  /-- The page that was left is not there. -/
  | strayed {i snapshot rest} : r.session.phase = .active i → r.session.history = snapshot :: rest →
      setup.document.pages[snapshot.index]? = none →
      Acts setup r .back { r with session := r.session.restored snapshot rest } (.done (some .ignored))
  | noted {n destination} :
      Acts setup r (.note n destination)
        { r with session := { r.session with pending := r.session.pending.filter r.isUnderWay ++ [n] } }
        (.arrive destination)
  | reached {page} :
      Acts setup r (.arrive (.page page))
        (({ r with session := r.session.arrive (.page page) }.cacheAnswers setup).tell (.changed page))
        (.done (some (.moved page)))
  | redirected {url} :
      Acts setup r (.arrive (.elsewhere url)) { r with session := r.session.arrive (.elsewhere url) }
        (.settle (some url))
  | finished : Acts setup r (.arrive .finish) { r with session := r.session.arrive .finish } (.settle none)
  | settled {redirect} :
      Acts setup r (.settle redirect) { r with session := { r.session with pending := [] } }
        (.await r.session.pending r.session.answers redirect)
  | awaited {ns answers redirect} : (∀ n ∈ ns, r.isUnderWay n = false) →
      Acts setup r (.await ns answers redirect) r (.tell answers redirect (r.clock + setup.observer.time))
  | told {answers redirect due} : due ≤ r.clock →
      Acts setup r (.tell answers redirect due)
        { r.tell (.finished answers redirect r.arrived.length) with
          cache := r.cache.clear setup.document.cacheKey }
        (.clear (r.cache.generation + 1) redirect)
  | cleared {g redirect} : r.cache.inLine g = false →
      Acts setup r (.clear g redirect) r (.done (some (.ended redirect)))

/-- Whether the observer fails makes no difference. -/
theorem report_eq (setup : Setup) (answers : Answers) (redirect : Option String) (r : Run) :
    r.report setup answers redirect = r.tell (.finished answers redirect r.arrived.length) := by
  unfold report
  split <;> rfl

/-- Each of the cases is what the call does. -/
theorem Acts.advance? [Grammars] {setup : Setup} {r r' : Run} {stage stage' : Stage}
    (h : Acts setup r stage r' stage') : r.advance? setup stage = some (r', stage') := by
  cases h with
  | refused ha hr =>
    cases stage with
    | record =>
      obtain rfl := Option.some.inj hr
      simp only [Run.advance?, Session.record_of_not_active ha]
    | depart =>
      obtain rfl := Option.some.inj hr
      simp only [Run.advance?, Session.depart_of_not_active ha]
    | back =>
      obtain rfl := Option.some.inj hr
      simp only [Run.advance?, Session.back_of_not_active ha]
    | note | arrive | settle | await | tell | clear | done => cases hr
  | recorded hi => simp only [Run.advance?, Session.record_of_active hi]
  | rejected hi hv => simp only [Run.advance?, Session.depart_of_invalid hi hv]
  | vacated hi hv hp => simp only [Run.advance?, Session.depart_of_valid hi hv, hp, Option.map_none]
  | @departed i submitted page hi hv hp =>
    simp only [Run.advance?, Session.depart_of_valid hi hv, hp, Option.map_some, leave, Session.completion]
    generalize Run.complete setup _ _ = completed
    obtain ⟨r', handle⟩ := completed
    cases handle <;> rfl
  | stayed hi hh => simp only [Run.advance?, Session.back_of_empty hh]
  | returned hi hh hp =>
    simp only [Run.advance?, Session.back_of_snapshot hi hh, hp, Option.map_some, Option.getD_some]
  | strayed hi hh hp =>
    simp only [Run.advance?, Session.back_of_snapshot hi hh, hp, Option.map_none, Option.getD_none]
  | noted | reached | redirected | finished | settled => rfl
  | awaited hdone =>
    have hany : List.any _ r.isUnderWay = false := List.any_eq_false.mpr fun n hn => by
      rw [hdone n hn]
      exact Bool.false_ne_true
    simp only [Run.advance?, hany, Bool.false_eq_true, if_false]
  | told hdue =>
    simp only [Run.advance?, report_eq, Nat.not_lt.mpr hdue, if_false]
    rfl
  | @cleared g redirect hline =>
    simp only [Run.advance?, hline, Bool.false_eq_true, if_false]
    cases redirect <;> rfl

/-! ### One of the cases applies, or the call has to wait -/

/-- The call need not wait at its stage. -/
def IsReady (r : Run) : Stage → Prop
  | .await ns _ _ => ∀ n ∈ ns, r.isUnderWay n = false
  | .tell _ _ due => due ≤ r.clock
  | .clear g _ => r.cache.inLine g = false
  | .done _ => False
  | _ => True

theorem isReady_call (r : Run) (c : Call) : r.IsReady c.stage := by
  cases c <;> trivial

section
variable [Grammars]

theorem Acts.exists_depart (setup : Setup) (r : Run) (submitted : Answers) :
    ∃ r' stage', Acts setup r (.depart submitted) r' stage' := by
  cases ha : r.session.phase.isActive with
  | false => exact ⟨_, _, .refused ha rfl⟩
  | true =>
    obtain ⟨i, hi⟩ := Phase.isActive_iff.mp ha
    cases hv : validate (r.session.visible setup.document i) (r.session.answers.extend submitted) with
    | some => exact ⟨_, _, .rejected hi hv⟩
    | none =>
      cases hp : setup.document.pages[i]? with
      | none => exact ⟨_, _, .vacated hi hv hp⟩
      | some => exact ⟨_, _, .departed hi hv hp⟩

theorem Acts.exists_back (setup : Setup) (r : Run) : ∃ r' stage', Acts setup r .back r' stage' := by
  cases ha : r.session.phase.isActive with
  | false => exact ⟨_, _, .refused ha rfl⟩
  | true =>
    obtain ⟨i, hi⟩ := Phase.isActive_iff.mp ha
    cases hh : r.session.history with
    | nil => exact ⟨_, _, .stayed hi hh⟩
    | cons snapshot rest =>
      cases hp : setup.document.pages[snapshot.index]? with
      | none => exact ⟨_, _, .strayed hi hh hp⟩
      | some => exact ⟨_, _, .returned hi hh hp⟩

/-- A call that need not wait goes on. -/
theorem IsReady.acts {r : Run} {stage : Stage} (h : r.IsReady stage) (setup : Setup) :
    ∃ r' stage', Acts setup r stage r' stage' := by
  cases stage with
  | record id v =>
    cases ha : r.session.phase.isActive with
    | false => exact ⟨_, _, .refused ha rfl⟩
    | true =>
      obtain ⟨i, hi⟩ := Phase.isActive_iff.mp ha
      exact ⟨_, _, .recorded hi⟩
  | depart submitted => exact Acts.exists_depart setup r submitted
  | back => exact Acts.exists_back setup r
  | note => exact ⟨_, _, .noted⟩
  | arrive destination =>
    cases destination with
    | page => exact ⟨_, _, .reached⟩
    | elsewhere => exact ⟨_, _, .redirected⟩
    | finish => exact ⟨_, _, .finished⟩
  | settle => exact ⟨_, _, .settled⟩
  | await => exact ⟨_, _, .awaited h⟩
  | tell => exact ⟨_, _, .told h⟩
  | clear => exact ⟨_, _, .cleared h⟩
  | done => exact h.elim

/-- A call that goes on need not have waited. -/
theorem isReady_of_advance? {setup : Setup} {r r' : Run} {stage stage' : Stage}
    (h : r.advance? setup stage = some (r', stage')) : r.IsReady stage := by
  cases stage with
  | record | depart | back | note | arrive | settle => trivial
  | await ns answers redirect =>
    simp only [advance?] at h
    split at h
    · cases h
    · rename_i hdone
      exact fun n hn => eq_false_of_ne_true fun hway => hdone (List.any_eq_true.mpr ⟨n, hn, hway⟩)
  | tell answers redirect due =>
    simp only [advance?] at h
    split at h
    · cases h
    · rename_i hdue
      exact Nat.le_of_not_lt hdue
  | clear g redirect =>
    simp only [advance?] at h
    split at h
    · cases h
    · rename_i hline
      exact eq_false_of_ne_true hline
  | done => cases h

/-- Whatever a call does at a stage is one of the cases: one of them applies, and that one is what the call does. -/
theorem Acts.of_advance? {setup : Setup} {r r' : Run} {stage stage' : Stage}
    (h : r.advance? setup stage = some (r', stage')) : Acts setup r stage r' stage' := by
  obtain ⟨r₁, stage₁, acts⟩ := (isReady_of_advance? h).acts setup
  rw [acts.advance?] at h
  obtain ⟨rfl, rfl⟩ := Prod.mk.inj (Option.some.inj h)
  exact acts

end

end Run

end Questionnaire
