import Questionnaire.Grammars.Builtin
import Questionnaire.Proofs.Session.Bounds
import Questionnaire.Proofs.Session.Leaving

/-!
# Leaving a page again

Going back takes from the session what leaving the page did to its variables and hidden blocks, and keeps the answers.
So a page that is gone back to, and left again with nothing new, leads where it led before, and the session comes out as
it was. `Run.redoing_changes_nothing` says this of any number of such round trips.
-/

namespace Questionnaire

theorem Entries.extend_empty {α : Type} (m : Entries α) : m.extend ∅ = m := rfl

theorem Destination.answer_eq_moved_iff {destination : Destination} {q : PageRef} :
    destination.answer = .moved q ↔ destination = .page q := by
  cases destination with
  | page => exact ⟨fun h => congrArg page (Transition.moved.inj h), fun h => congrArg Transition.moved (page.inj h)⟩
  | elsewhere | finish => exact iff_of_false nofun nofun

namespace Session
variable {d : Document} {s s' : Session} {i : Nat} {submitted : Answers} {page : Page} {q : PageRef}

/-- The session back on a page that it left with more answers: they are kept, and all else is as it was. -/
def kept (submitted : Answers) (s : Session) : Session :=
  { s with answers := s.answers.extend submitted, complaints := none }

theorem back_of_left (hi : s.phase = .active i) (hindex : s.index = i) (hp : d.pages[i]? = some page) :
    ((s.left d i submitted).arrive (.page q)).back d = (s.kept submitted, .moved (page.ref i)) := by
  have hphase : ((s.left d i submitted).arrive (.page q)).phase = .active q.index := rfl
  rw [back_of_snapshot hphase rfl, hp, Option.map_some, Option.getD_some, restored, kept, ← hi]
  simp only [arrive, left, ← hindex]

/-- The rule of the page starts from the same variables again, and the answers pass again. -/
theorem leaving_kept [Grammars] (hi : s.phase = .active i)
    (hv : validate (s.visible d i) (s.answers.extend submitted) = none) :
    (s.kept submitted).leaving d ∅ = s.leaving d submitted := by
  have hi' : (s.kept submitted).phase = .active i := hi
  have hv' : validate ((s.kept submitted).visible d i) ((s.kept submitted).answers.extend ∅) = none := by
    rw [Entries.extend_empty]
    exact hv
  rw [Run.leaving_of_valid hi hv, Run.leaving_of_valid hi' hv']
  rfl

/-- Nothing can be left for a page from where there is no page. -/
theorem page_of_toward (hindex : i < d.pageCount ∨ d.pages = [] ∧ i = 0) (htoward : s.toward d i submitted = .page q) :
    ∃ page, d.pages[i]? = some page := by
  rcases hindex with hlt | ⟨hnil, -⟩
  · exact ⟨_, List.getElem?_eq_getElem hlt⟩
  · obtain ⟨page, hp, -⟩ := Run.destination_ref htoward
    rw [hnil] at hp
    cases hp

end Session

namespace Run

/-- Back and on again, that many times. -/
def roundTrips (k : Nat) : List Call := (List.replicate k [.previous, .next ∅]).flatten

theorem roundTrips_succ (k : Nat) : roundTrips (k + 1) = roundTrips k ++ [.previous] ++ [.next ∅] := by
  rw [roundTrips, List.replicate_succ', List.flatten_concat, List.append_assoc]
  rfl

section
variable [Grammars] {setup : Setup} {store : Entries Answers} {given : Answers} {log : List Passage}
  {r r₀ r₁ r₂ r' : Run}
  {n i : Nat} {played : List Played} {submitted : Answers} {q : PageRef}

/-- A page has been left for another one when that is the answer. -/
theorem Completes.of_moved (h : Completes setup n r (some (.moved q)) r')
    (hn : r.calls[n]? = some (.depart submitted)) :
    ∃ i, r.session.phase = .active i ∧
      validate (r.session.visible setup.document i) (r.session.answers.extend submitted) = none ∧
      r.session.toward setup.document i submitted = .page q ∧
      ((r.session.left setup.document i submitted).arrive (.page q)).core = r'.session.core := by
  cases ha : r.session.phase.isActive with
  | false =>
    obtain ⟨news, -, hconclude⟩ := h.concludes hn
    rw [Stage.conclude, Session.leaving, Session.depart_of_not_active ha] at hconclude
    cases (Conclusion.mk.inj hconclude).2.1
  | true =>
    obtain ⟨i, hi⟩ := Phase.isActive_iff.mp ha
    cases hv : validate (r.session.visible setup.document i) (r.session.answers.extend submitted) with
    | some complaints => cases (h.of_invalid hi hn hv).1
    | none =>
      obtain ⟨hanswer, hcore⟩ := h.of_valid hi hn hv
      have htoward : r.session.toward setup.document i submitted = .page q :=
        Destination.answer_eq_moved_iff.mp (Option.some.inj hanswer).symm
      rw [htoward] at hcore
      exact ⟨i, hi, hv, htoward, hcore⟩

/-- Round trips from a page that was come to by leaving page `i` of the session `s`. -/
theorem Plays.of_roundTrips {s : Session} {page : Page} {k : Nat} (hi : s.phase = .active i) (hindex : s.index = i)
    (hp : setup.document.pages[i]? = some page)
    (hv : validate (s.visible setup.document i) (s.answers.extend submitted) = none)
    (htoward : s.toward setup.document i submitted = .page q)
    (hcore : ((s.left setup.document i submitted).arrive (.page q)).core = r₁.session.core)
    (h : Plays setup r₁ played r₂) (hcalls : played.map Played.call = roundTrips k) :
    played.map Played.answer = (List.replicate k [some (.moved (page.ref i)), some (.moved q)]).flatten ∧
      r₂.session.core = r₁.session.core ∧
      ∀ p ∈ played, p.call = .previous → p.after.session.core = (s.kept submitted).core := by
  induction k generalizing played r₂ with
  | zero =>
    obtain rfl := List.map_eq_nil_iff.mp hcalls
    obtain rfl := h.eq_of_nil
    exact ⟨rfl, rfl, fun p hp => absurd hp List.not_mem_nil⟩
  | succ k ih =>
    rw [roundTrips_succ] at hcalls
    obtain ⟨played₂, back, _, t, h₂, hcalls₂, rfl, hnext, hagain⟩ := h.of_concat hcalls
    obtain ⟨played₁, away, _, t', h₁, hcalls₁, rfl, hprevious, hback⟩ := h₂.of_concat hcalls₂
    obtain ⟨hanswers, hsame, hbacks⟩ := ih h₁ hcalls₁
    obtain ⟨news, -, hback⟩ := hback.concludes_call hprevious
    obtain ⟨news', -, hagain⟩ := hagain.concludes_call hnext
    rw [Call.stage, Stage.conclude_congr (hsame.trans hcore.symm), Stage.conclude,
      Session.back_of_left hi hindex hp] at hback
    obtain ⟨hkept, rfl, -⟩ := Conclusion.mk.inj hback
    rw [Call.stage, Stage.conclude_congr hkept.symm, Stage.conclude, Session.leaving_kept hi hv,
      leaving_of_valid hi hv, htoward] at hagain
    obtain ⟨hend, rfl, -⟩ := Conclusion.mk.inj hagain
    refine ⟨?_, hend.symm.trans hcore, fun p hmem hprevious => ?_⟩
    · rw [List.map_append, List.map_append, hanswers, List.replicate_succ', List.flatten_concat, List.append_assoc]
      rfl
    · rcases List.mem_append.mp hmem with hmem | hmem
      · rcases List.mem_append.mp hmem with hmem | hmem
        · exact hbacks p hmem hprevious
        · obtain rfl := List.mem_singleton.mp hmem
          exact hkept.symm
      · obtain rfl := List.mem_singleton.mp hmem
        cases hprevious

/-- From every state of a run, take a request to go on that is answered by moving to a page. It was made on a page
that is there, and from then on one can go back and on again with nothing new, as often as one likes. Going back is
answered with the page that was left, and the session is as it was there, but for the answers, which are kept, and the
complaints, of which there are none. Going on is answered with the page that was moved to at first, and the session is
as it was then: its page, answers, variables, hidden blocks, complaints and history. So however often one goes back
and forth, the rule of the page has been applied once. -/
theorem redoing_changes_nothing (h : Reaches setup (start setup store given) log r)
    (hcall : r.move? setup (.call (.next submitted)) = some r₀)
    (hdone : Completes setup r.calls.length r₀ (some (.moved q)) r₁) :
    let answers := r.session.answers.extend submitted
    ∃ i page, r.session.phase = .active i ∧ setup.document.pages[i]? = some page ∧ ∀ k,
      (∃ played r₂, Plays setup r₁ played r₂ ∧ played.map Played.call = roundTrips k) ∧
      ∀ played r₂, Plays setup r₁ played r₂ → played.map Played.call = roundTrips k →
        played.map Played.answer = (List.replicate k [some (.moved (page.ref i)), some (.moved q)]).flatten ∧
        r₂.session.core = r₁.session.core ∧
        r₂.session.vars = (setup.document.outcome (some page) answers r.session.vars).vars ∧
        ∀ p ∈ played, p.call = .previous →
          p.after.session.core = { r.session with answers := answers, complaints := none }.core := by
  intro answers
  have hr₀ := h.step _ hcall
  obtain rfl := Option.some.inj hcall
  obtain ⟨i, hi, hv, htoward, hcore⟩ := hdone.of_moved List.getElem?_concat_length
  have hindex : r.session.index = i := h.index i (Or.inl hi)
  obtain ⟨page, hp⟩ := Session.page_of_toward (hindex ▸ h.index_lt) htoward
  obtain ⟨log', hlog⟩ := hdone.reaches
  refine ⟨i, page, hi, hp, fun k => ⟨(hr₀.trans hlog).plays_exists (roundTrips k), fun played r₂ hplays hcalls => ?_⟩⟩
  obtain ⟨hanswers, hsame, hbacks⟩ := hplays.of_roundTrips hi hindex hp hv htoward hcore hcalls
  have hvars := (Session.hasLeft_of_core (hcore.trans hsame.symm)).vars
  rw [hp] at hvars
  exact ⟨hanswers, hsame, hvars, hbacks⟩

end

open scoped Grammars in
/-- Three times back and on again from the second page: the point for leaving the first one is there once. -/
theorem redoing_changes_nothing_of_three : ∃ r₀ r₁ played r₂,
    (start scored ∅ ∅).move? scored (.call (.next ∅)) = some r₀ ∧
    Completes scored 0 r₀ (some (.moved ⟨"second", 1, ""⟩)) r₁ ∧
    Plays scored r₁ played r₂ ∧ played.map Played.call = roundTrips 3 ∧ played.length = 6 ∧
    r₂.session.core = r₁.session.core ∧ (r₂.session.vars.number "score" == 1) = true := by
  have h : Reaches scored (start scored ∅ ∅) [] (start scored ∅ ∅) := .refl
  obtain ⟨r₁, hdone⟩ : ∃ r₁, Completes scored 0 { start scored ∅ ∅ with calls := [.depart ∅] }
      (some (.moved ⟨"second", 1, ""⟩)) r₁ := ⟨_, .of_follow? [.advance 0, .advance 0] rfl rfl rfl⟩
  obtain ⟨i, page, hi, hp, trips⟩ := redoing_changes_nothing h rfl hdone
  obtain rfl := Phase.active.inj hi
  obtain rfl := Option.some.inj hp
  obtain ⟨⟨played, r₂, hplays, hcalls⟩, all⟩ := trips 3
  obtain ⟨-, hsame, hvars, -⟩ := all played r₂ hplays hcalls
  refine ⟨_, r₁, played, r₂, rfl, hdone, hplays, hcalls, ?_, hsame, ?_⟩
  · rw [← List.length_map Played.call, hcalls]
    rfl
  · rw [hvars]
    decide +kernel

end Run

end Questionnaire
