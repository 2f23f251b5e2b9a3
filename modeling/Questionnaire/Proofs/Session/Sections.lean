import Questionnaire.Session

/-!
# The sections of a session, case by case

What `record`, `depart` and `back` do to a session and what they answer, said once for each case: no page is
active, the answers do not pass, the page is left, there is a page to go back to. Later proofs cite these cases and
open no section again.
-/

namespace Questionnaire

/-- The outcome of the rule of a page on answers and variables; without a rule nothing changes. -/
def Document.outcome (d : Document) (page : Option Page) (answers : Answers) (vars : Variables) : Outcome :=
  match page.bind fun p => d.ruleFor? p.id with
  | some r => r.outcome answers vars
  | none => { vars := vars }

theorem Phase.isActive_iff {p : Phase} : p.isActive = true ↔ ∃ i, p = .active i := by
  cases p <;> simp [Phase.isActive]

namespace Session
variable {d : Document} {s : Session}

/-- A session without the submissions that may be under way, which decide nothing. -/
def core (s : Session) : Session := { s with pending := [] }

theorem phase_of_core {s s' : Session} (h : s'.core = s.core) : s'.phase = s.phase := by
  have := congrArg Session.phase h
  exact this

theorem answers_of_core {s s' : Session} (h : s'.core = s.core) : s'.answers = s.answers := by
  have := congrArg Session.answers h
  exact this

/-- A recorded answer ends its page: its block can be seen there and the page moves on by itself. -/
def advancesOn (d : Document) (i : Nat) (id : String) (s : Session) : Bool :=
  ((s.visible d i).any fun b => b.id == id) && shouldAutoAdvance (s.visible d i)

/-- The session once page `i` has been left with more answers. -/
def left (d : Document) (i : Nat) (submitted : Answers) (s : Session) : Session :=
  let answers := s.answers.extend submitted
  let o := d.outcome d.pages[i]? answers s.vars
  { s with
    answers := answers
    phase := .transitioning i
    complaints := none
    vars := o.vars
    hidden := o.hidden
    history := ⟨i, s.vars, s.hidden⟩ :: s.history }

/-- Where page `i` leads with more answers. -/
def toward (d : Document) (i : Nat) (submitted : Answers) (s : Session) : Destination :=
  destination d i (d.outcome d.pages[i]? (s.answers.extend submitted) s.vars)

/-- The session once it has gone back to a page as it was. -/
def restored (snapshot : Snapshot) (rest : List Snapshot) (s : Session) : Session :=
  { s with
    phase := .active snapshot.index
    index := snapshot.index
    vars := snapshot.vars
    hidden := snapshot.hidden
    complaints := none
    history := rest }

/-! ### Recording -/

theorem record_of_active {i : Nat} (h : s.phase = .active i) (id : String) (v : Json) :
    s.record d id v = some ({ s with answers := s.answers.insert id v }, s.advancesOn d i id) := by
  simp only [record, h]
  rfl

theorem record_of_not_active (h : s.phase.isActive = false) (id : String) (v : Json) : s.record d id v = none := by
  unfold record
  split
  · rename_i i hi
    simp [hi, Phase.isActive] at h
  · rfl

/-! ### Departing -/

theorem depart_of_not_active [Grammars] (h : s.phase.isActive = false) (submitted : Answers) :
    s.depart d submitted = (s, .ignored) := by
  unfold depart
  split
  · rename_i i hi
    simp [hi, Phase.isActive] at h
  · rfl

/-- What can be seen on a page does not depend on the answers. -/
theorem visible_answers (d : Document) (i : Nat) (answers : Answers) (s : Session) :
    visible d i { s with answers := answers } = s.visible d i := rfl

theorem depart_of_invalid [Grammars] {i : Nat} {submitted : Answers} {complaints : Complaints} (h : s.phase = .active i)
    (hv : validate (s.visible d i) (s.answers.extend submitted) = some complaints) :
    s.depart d submitted =
      ({ s with answers := s.answers.extend submitted, complaints := some complaints }, .invalid complaints) := by
  rw [← visible_answers d i (s.answers.extend submitted)] at hv
  unfold depart
  split
  · rename_i j hj
    rw [h] at hj
    cases hj
    simp only [hv]
  · rename_i hn
    exact absurd h (hn i)

theorem depart_of_valid [Grammars] {i : Nat} {submitted : Answers} (h : s.phase = .active i)
    (hv : validate (s.visible d i) (s.answers.extend submitted) = none) :
    s.depart d submitted = (s.left d i submitted,
      .departed ⟨(d.pages[i]?).map fun p => ⟨p.ref i, answersOf (s.visible d i) (s.answers.extend submitted)⟩,
        s.toward d i submitted⟩) := by
  rw [← visible_answers d i (s.answers.extend submitted)] at hv
  unfold depart
  split
  · rename_i j hj
    rw [h] at hj
    cases hj
    simp only [hv]
    rfl
  · rename_i hn
    exact absurd h (hn i)

/-- A page that has been left is not active. -/
theorem not_active_of_departed [Grammars] {s' : Session} {submitted : Answers} {departure : Departure}
    (h : s.depart d submitted = (s', .departed departure)) : s'.phase.isActive = false := by
  unfold depart at h
  split at h
  · dsimp only at h
    split at h
    · cases h
    · rw [← (Prod.mk.inj h).1]
      rfl
  · cases h

/-! ### Going back -/

theorem back_of_not_active (h : s.phase.isActive = false) : s.back d = (s, .ignored) := by
  unfold back
  split
  · rename_i i _ _ hi _
    simp [hi, Phase.isActive] at h
  · rfl

theorem back_of_empty (h : s.history = []) : s.back d = (s, .ignored) := by
  unfold back
  split
  · rename_i hs
    rw [h] at hs
    cases hs
  · rfl

theorem back_of_snapshot {i : Nat} {snapshot : Snapshot} {rest : List Snapshot} (h : s.phase = .active i)
    (hh : s.history = snapshot :: rest) :
    s.back d = (s.restored snapshot rest,
      ((d.pages[snapshot.index]?).map fun p => Transition.moved (p.ref snapshot.index)).getD .ignored) := by
  simp only [back, h, hh]
  cases d.pages[snapshot.index]? <;> rfl

end Session

end Questionnaire
