import Mathlib.Data.List.Forall2
import Questionnaire.Grammars.Builtin
import Questionnaire.Proofs.Session.SingleFlight

/-!
# Every answered page is submitted once

A page is submitted in the section that leaves it, if one of its blocks has an answer, and in no other. The submission
is then noted as pending by its call, and what is pending is taken over by the call that ends the session. `Hands` says
what a section does with submissions; `Accounted` follows each one under way to a call that has it in hand or to those
that are pending, so that none is under way when the end is told.
-/

namespace Questionnaire

/-- A page as it is left: the blocks that can be seen on it, and the answers that are recorded by then. -/
structure Parting where
  blocks : List Block
  answers : Answers

/-- One of the blocks has an answer. -/
def Parting.isAnswered (p : Parting) : Bool := p.blocks.any fun b => (p.answers.get? b.id).isSome

/-- The page that a section leaves, if it leaves one. -/
def Stage.parting? [Grammars] (d : Document) (s : Session) : Stage → Option Parting
  | depart submitted =>
    match s.phase with
    | .active i =>
      let answers := s.answers.extend submitted
      if (validate (s.visible d i) answers).isNone then some ⟨s.visible d i, answers⟩ else none
    | _ => none
  | _ => none

/-- The submission hands on the answers of the blocks of the page, and says whose they are. -/
structure Setup.Carries (setup : Setup) (p : Parting) (s : Submission) : Prop where
  documentId : s.documentId = setup.document.id
  sessionId : s.sessionId = setup.sessionId
  answers : ∀ id v, ⟨id, v⟩ ∈ s.answers ↔ (∃ b ∈ p.blocks, b.id = id) ∧ p.answers.get? id = some v
  nodup : (s.answers.map Submission.Answer.blockId).Nodup

/-- The submissions that a call has in hand: the one that it is to note, or those that it is to see finished. -/
def Stage.handles : Stage → List Nat
  | note n _ => [n]
  | await ns _ _ => ns
  | _ => []

namespace Stage

theorem holds_of_mem_handles {stage : Stage} {n : Nat} (h : n ∈ stage.handles) : stage.holds = true := by
  cases stage with
  | note | await => rfl
  | record | depart | back | arrive | settle | tell | clear | done => cases h

theorem parting?_of_not_active [Grammars] {submitted : Answers} {d : Document} {s : Session}
    (h : s.phase.isActive = false) : (depart submitted).parting? d s = none := by
  simp only [parting?]
  split
  · rename_i i hi
    rw [hi] at h
    cases h
  · rfl

theorem holds_of_taken? {stage : Stage} (h : stage.taken?.isSome) : stage.holds = true := by
  cases stage with
  | await | tell => rfl
  | record | depart | back | note | arrive | settle | clear | done => cases h

end Stage

/-! ### What is handed on -/

section
variable {blocks : List Block} {answers : Answers}

theorem get?_answersOf {id : String} {v : Json} :
    (answersOf blocks answers).get? id = some v ↔ (∃ b ∈ blocks, b.id = id) ∧ answers.get? id = some v := by
  have hrecorded : ∀ e ∈ blocks.filterMap fun b => (answers.get? b.id).map (b.id, ·), answers.get? e.1 = some e.2 := by
    intro e he
    obtain ⟨b, -, hb⟩ := List.mem_filterMap.mp he
    obtain ⟨v, hv, rfl⟩ := Option.map_eq_some_iff.mp hb
    exact hv
  have hname : id ∈ Members.names (blocks.filterMap fun b => (answers.get? b.id).map (b.id, ·)) ↔
      ∃ b ∈ blocks, b.id = id ∧ (answers.get? id).isSome := by
    rw [Members.names, List.mem_map]
    constructor
    · rintro ⟨e, he, rfl⟩
      obtain ⟨b, hb, hrecord⟩ := List.mem_filterMap.mp he
      obtain ⟨v, hv, rfl⟩ := Option.map_eq_some_iff.mp hrecord
      exact ⟨b, hb, rfl, Option.isSome_iff_exists.mpr ⟨v, hv⟩⟩
    · rintro ⟨b, hb, rfl, hsome⟩
      obtain ⟨v, hv⟩ := Option.isSome_iff_exists.mp hsome
      exact ⟨(b.id, v), List.mem_filterMap.mpr ⟨b, hb, by rw [hv]; rfl⟩, rfl⟩
  rw [answersOf, Entries.ofList, Entries.get?_insertList Entries.empty hrecorded, Entries.get?_empty,
    Option.ite_none_right_eq_some, hname]
  constructor
  · rintro ⟨⟨b, hb, hid, -⟩, hv⟩
    exact ⟨⟨b, hb, hid⟩, hv⟩
  · rintro ⟨⟨b, hb, hid⟩, hv⟩
    exact ⟨⟨b, hb, hid, by rw [hv]; rfl⟩, hv⟩

theorem isEmpty_answersOf : (answersOf blocks answers).isEmpty = !(⟨blocks, answers⟩ : Parting).isAnswered := by
  rw [Bool.eq_iff_iff, Bool.not_eq_true', Entries.isEmpty, List.isEmpty_iff, List.eq_nil_iff_forall_not_mem,
    Parting.isAnswered, List.any_eq_false]
  constructor
  · intro h b hb hsome
    obtain ⟨v, hv⟩ := Option.isSome_iff_exists.mp hsome
    exact h (b.id, v) (Entries.mem_toList.mpr (get?_answersOf.mpr ⟨⟨b, hb, rfl⟩, hv⟩))
  · rintro h ⟨id, v⟩ hm
    obtain ⟨⟨b, hb, rfl⟩, hv⟩ := get?_answersOf.mp (Entries.mem_toList.mp hm)
    exact h b hb (by rw [hv]; rfl)

theorem Setup.carries_submission (setup : Setup) (page : PageRef) (clock : Nat) :
    setup.Carries ⟨blocks, answers⟩ (setup.submission ⟨page, answersOf blocks answers⟩ clock) where
  documentId := rfl
  sessionId := rfl
  answers id v := by
    rw [← get?_answersOf, ← Entries.mem_toList, submission, List.mem_map]
    constructor
    · rintro ⟨e, he, heq⟩
      obtain ⟨rfl, rfl⟩ := Submission.Answer.mk.inj heq
      exact he
    · exact fun h => ⟨(id, v), h, rfl⟩
  nodup := by
    rw [submission, List.map_map]
    exact (answersOf blocks answers).nodup

end

/-! ### What a section does with submissions -/

namespace Run

/-- What the section of a call does with submissions, those that were made and those that are pending: it makes one for
the page that it leaves, notes one as pending, takes over those that are pending, finds those that it took over
finished, or has nothing to do with them. -/
inductive Hands [Grammars] (setup : Setup) (r : Run) : Stage → List Delivery → List Nat → Stage → Prop
  | queued {submitted parting destination delivery} : setup.sink.isSome →
      (Stage.depart submitted).parting? setup.document r.session = some parting → parting.isAnswered = true →
      setup.Carries parting delivery.submission →
      Hands setup r (.depart submitted) (r.deliveries ++ [delivery]) r.session.pending
        (.note r.deliveries.length destination)
  | noted {n destination} :
      Hands setup r (.note n destination) r.deliveries (r.session.pending.filter r.isUnderWay ++ [n])
        (.arrive destination)
  | settled {redirect answers} :
      Hands setup r (.settle redirect) r.deliveries [] (.await r.session.pending answers redirect)
  | awaited {ns answers redirect due} : (∀ n ∈ ns, r.isUnderWay n = false) →
      Hands setup r (.await ns answers redirect) r.deliveries r.session.pending (.tell answers redirect due)
  | other {stage stage'} : stage.handles = [] → stage'.handles = [] → stage'.taken? = none →
      (∀ parting, stage.parting? setup.document r.session = some parting → setup.sink.isSome →
        parting.isAnswered = false) → Hands setup r stage r.deliveries r.session.pending stage'

section
variable [Grammars] {setup : Setup} {r r' : Run} {stage stage' : Stage}

theorem deliveries_reenter (setup : Setup) (r : Run) : (r.reenter setup).deliveries = r.deliveries := by
  unfold reenter
  split <;> rfl

/-- The answers of a completed page are submitted if there are any and there is a sink. -/
theorem complete_cases (setup : Setup) (c : Completion) (r : Run) :
    ((setup.sink = none ∨ c.answers.isEmpty = true) ∧
      r.complete setup c = ((r.tell (.completed c)).reenter setup, none)) ∨
    setup.sink.isSome ∧ c.answers.isEmpty = false ∧ ∃ r' delivery, r.complete setup c = (r', some r.deliveries.length) ∧
      r'.deliveries = r.deliveries ++ [delivery] ∧ ∃ clock, delivery.submission = setup.submission c clock := by
  have hd : ((r.tell (.completed c)).reenter setup).deliveries = r.deliveries := deliveries_reenter setup _
  unfold complete
  generalize (r.tell (.completed c)).reenter setup = r₁ at hd ⊢
  cases hsink : setup.sink with
  | none => exact Or.inl ⟨Or.inl rfl, rfl⟩
  | some sink =>
    cases hempty : c.answers.isEmpty with
    | true => exact Or.inl ⟨Or.inr rfl, rfl⟩
    | false =>
      simp only [Bool.false_eq_true, if_false, hd]
      exact Or.inr ⟨rfl, trivial, _, _, rfl, rfl, r₁.clock, rfl⟩

theorem parting?_of_valid {i : Nat} {submitted : Answers} {d : Document} {s : Session} (hi : s.phase = .active i)
    (hv : validate (s.visible d i) (s.answers.extend submitted) = none) :
    (Stage.depart submitted).parting? d s = some ⟨s.visible d i, s.answers.extend submitted⟩ := by
  simp only [Stage.parting?, hi, hv, Option.isNone_none, if_true]

/-- A section at which no page is left. -/
theorem Hands.quiet (hparting : stage.parting? setup.document r.session = none) (h : stage.handles = [])
    (h' : stage'.handles = []) (htaken : stage'.taken? = none) :
    Hands setup r stage r.deliveries r.session.pending stage' := by
  refine Hands.other h h' htaken fun parting hleft _ => ?_
  rw [hparting] at hleft
  cases hleft

theorem hands_leave {i : Nat} {submitted : Answers} {page : Page} (hi : r.session.phase = .active i)
    (hv : validate (r.session.visible setup.document i) (r.session.answers.extend submitted) = none) :
    Hands setup r (.depart submitted) (r.leave setup i submitted page).1.deliveries
      (r.leave setup i submitted page).1.session.pending
      ((r.session.toward setup.document i submitted).noted (r.leave setup i submitted page).2) := by
  have hparting := parting?_of_valid hi hv
  have hpending : (r.leave setup i submitted page).1.session.pending = r.session.pending := by
    rw [leave_session]
    rfl
  rw [hpending]
  rcases complete_cases setup (r.session.completion setup.document i submitted page)
      { r with session := r.session.left setup.document i submitted } with
    ⟨hnone, hcomplete⟩ | ⟨hsink, hanswers, r₁, delivery, hcomplete, hd, clock, hsubmission⟩
  · rw [leave, hcomplete, deliveries_reenter]
    refine Hands.other rfl rfl rfl fun parting hleft hsink => ?_
    rw [hparting] at hleft
    obtain rfl := Option.some.inj hleft
    rcases hnone with hnone | hempty
    · rw [hnone] at hsink
      cases hsink
    · rw [Session.completion, isEmpty_answersOf, Bool.not_eq_true'] at hempty
      exact hempty
  · rw [Session.completion, isEmpty_answersOf, Bool.not_eq_false'] at hanswers
    rw [leave, hcomplete, hd]
    exact Hands.queued hsink hparting hanswers (hsubmission ▸ setup.carries_submission _ clock)

theorem Acts.hands (h : Acts setup r stage r' stage') :
    Hands setup r stage r'.deliveries r'.session.pending stage' := by
  cases h with
  | refused ha hr =>
    cases stage with
    | record | back => exact .quiet rfl rfl rfl rfl
    | depart => exact .quiet (Stage.parting?_of_not_active ha) rfl rfl rfl
    | note | arrive | settle | await | tell | clear | done => cases hr
  | recorded => split <;> exact .quiet rfl rfl rfl rfl
  | rejected hi hv => exact .quiet (by simp only [Stage.parting?, hi, hv]; rfl) rfl rfl rfl
  | vacated hi hv hp =>
    refine .other rfl rfl rfl fun parting hleft _ => ?_
    rw [parting?_of_valid hi hv] at hleft
    obtain rfl := Option.some.inj hleft
    simp only [Parting.isAnswered, Session.visible, hp, Option.map_none, Option.getD_none, List.any_nil]
  | departed hi hv => exact hands_leave hi hv
  | noted => exact .noted
  | settled => exact .settled
  | awaited hdone => exact .awaited hdone
  | stayed | returned | strayed | reached | redirected | finished | told | cleared => exact .quiet rfl rfl rfl rfl

end

/-! ### Submissions under way -/

section
variable {setup : Setup} {r r' : Run} {n m : Nat} {d : Document} {stage stage' : Stage} {delivery : Delivery}

theorem isUnderWay_iff : r.isUnderWay n = true ↔ ∃ delivery, r.deliveries[n]? = some delivery ∧ delivery.isDone = false := by
  unfold isUnderWay
  cases r.deliveries[n]? <;> simp

theorem isUnderWay_of_same (h : r'.deliveries = r.deliveries) : r'.isUnderWay n = r.isUnderWay n := by
  unfold isUnderWay
  rw [h]

theorem isUnderWay_of_concat (h : r'.deliveries = r.deliveries ++ [delivery]) (hn : r'.isUnderWay n = true) :
    r.isUnderWay n = true ∨ n = r.deliveries.length := by
  obtain ⟨found, hfound, hdone⟩ := isUnderWay_iff.mp hn
  rw [h, List.getElem?_append] at hfound
  split at hfound
  · exact Or.inl (isUnderWay_iff.mpr ⟨found, hfound, hdone⟩)
  · rename_i hlen
    have : n - r.deliveries.length < 1 := (List.getElem?_eq_some_iff.mp hfound).1
    exact Or.inr (by omega)

/-- The sink finishes a submission as it was made. -/
theorem move?_deliver [Grammars] (h : r.move? setup (.deliver m) = some r') :
    Aside r r' ∧ r'.deliveries.map Delivery.submission = r.deliveries.map Delivery.submission ∧
      ∀ n, r'.isUnderWay n = true → r.isUnderWay n = true := by
  simp only [move?] at h
  split at h
  · rename_i sink delivery _ hm
    split at h
    · obtain rfl := Option.some.inj h
      refine ⟨⟨rfl, ⟨[], (List.append_nil _).symm⟩, rfl⟩, ?_, fun n hn => ?_⟩
      · obtain ⟨hlt, rfl⟩ := List.getElem?_eq_some_iff.mp hm
        rw [List.map_set, ← List.getElem_map Delivery.submission, List.set_getElem_self]
        rwa [List.length_map]
      · obtain ⟨found, hfound, hdone⟩ := isUnderWay_iff.mp hn
        by_cases hmn : m = n
        · subst hmn
          rw [List.getElem?_set_self (List.getElem?_eq_some_iff.mp hm).1] at hfound
          obtain rfl := Option.some.inj hfound
          cases hdone
        · rw [List.getElem?_set_ne hmn] at hfound
          exact isUnderWay_iff.mpr ⟨found, hfound, hdone⟩
    · cases h
  · cases h

/-! ### Reports of the end -/

theorem Aside.reports (h : Aside r r') : r'.reports = r.reports := by
  obtain ⟨more, hcalls⟩ := h.calls
  have hmore : (more.map Call.stage).filterMap Stage.ending? = [] := by
    refine List.filterMap_eq_nil_iff.mpr fun stage hs => ?_
    obtain ⟨c, -, rfl⟩ := List.mem_map.mp hs
    exact Stage.ending?_of_not_holds (Stage.not_holds_call c)
  rw [Run.reports, hcalls, List.filterMap_append, hmore, List.append_nil, h.endings, Run.reports]

/-- A report is new only if the section has begun it. -/
theorem Advances.mem_reports [Grammars] {report : Answers × Option String} (h : Advances d n stage stage' r r')
    (hm : report ∈ r'.reports) : report ∈ r.reports ∨ stage'.ending? = some report := by
  rw [Run.reports, List.mem_append, h.endings, List.mem_append] at hm
  rw [Run.reports, List.mem_append]
  rcases hm with hm | hm | hm
  · obtain ⟨other, ho, hreport⟩ := List.mem_filterMap.mp hm
    rcases h.mem_cases ho with ho | rfl
    · exact Or.inl (Or.inl (List.mem_filterMap.mpr ⟨other, ho, hreport⟩))
    · exact Or.inr hreport
  · exact Or.inl (Or.inr hm)
  · exact Or.inl (Or.inl (List.mem_filterMap.mpr ⟨stage, h.mem, Option.mem_toList.mp hm⟩))

/-- While a call is on its way, nothing of the end has been reported. -/
theorem Regime.reports_eq_nil (h : Regime r) (hk : stage ∈ r.calls) (hd : stage.destination?.isSome) :
    r.reports = [] := by
  refine h.reports.resolve_right ?_
  rintro ⟨redirect, hp, -⟩
  rw [h.destination?_eq_none (fun i hi => by rw [hi] at hp; cases hp) hk] at hd
  cases hd

/-- Never do two calls hold the session. -/
theorem Regime.eq_of_holds {other : Stage} (h : Regime r) (hk : stage ∈ r.calls) (hs : stage.holds = true)
    (ho : other ∈ r.calls) (hother : other.holds = true) : other = stage := by
  obtain ⟨m, hm⟩ := List.getElem?_of_mem hk
  obtain ⟨k, hk'⟩ := List.getElem?_of_mem ho
  cases h with
  | resting _ hn | ended _ hn => exact absurd (hn stage hk) (by rw [hs]; exact Bool.true_eq_false.mp)
  | flying _ _ _ only | closing _ _ _ _ only =>
    obtain rfl := only.eq_of_holds hm hs
    obtain rfl := only.eq_of_holds hk' hother
    exact Option.some.inj (hk'.symm.trans hm)

end

/-! ### Every submission is accounted for -/

/-- The pages whose answers are to be submitted, in the order in which they were left: the answered ones, if there is
a sink. -/
def toSubmit [Grammars] (setup : Setup) (log : List Passage) : List Parting :=
  log.filterMap fun p => (p.stage.parting? setup.document p.session).filter fun parting =>
    setup.sink.isSome && parting.isAnswered

/-- Every submission was made for a page that was left, and each one under way is in the hand of a call or pending. -/
structure Accounted [Grammars] (setup : Setup) (log : List Passage) (r : Run) : Prop where
  submitted : List.Forall₂ setup.Carries (toSubmit setup log) (r.deliveries.map Delivery.submission)
  inHand : ∀ n, r.isUnderWay n = true → n ∈ r.session.pending ∨ ∃ stage ∈ r.calls, n ∈ stage.handles
  taken : ∀ stage ∈ r.calls, stage.taken?.isSome → r.session.pending = []
  finished : ∀ report ∈ r.reports, ∀ n, r.isUnderWay n = false

namespace Accounted
variable [Grammars] {setup : Setup} {store : Entries Answers} {given : Answers} {log : List Passage} {r r' : Run}
  {n : Nat}
  {stage stage' : Stage}

theorem start (setup : Setup) (store : Entries Answers) (given : Answers) :
    Accounted setup [] (Run.start setup store given) :=
  ⟨List.Forall₂.nil, nofun, nofun, nofun⟩

theorem aside (h : Accounted setup log r) (beside : Aside r r')
    (hsubmissions : r'.deliveries.map Delivery.submission = r.deliveries.map Delivery.submission)
    (hway : ∀ n, r'.isUnderWay n = true → r.isUnderWay n = true) : Accounted setup log r' := by
  refine ⟨hsubmissions ▸ h.submitted, fun n hn => ?_, fun other ho htaken => ?_, fun report hreport n => ?_⟩
  · rw [beside.session]
    refine (h.inHand n (hway n hn)).imp_right ?_
    rintro ⟨other, ho, hm⟩
    obtain ⟨k, hk⟩ := List.getElem?_of_mem ho
    exact ⟨other, List.mem_of_getElem? (beside.getElem? hk), hm⟩
  · rw [beside.session]
    rcases beside.mem_cases ho with ho | ⟨c, rfl⟩
    · exact h.taken other ho htaken
    · cases c <;> cases htaken
  · refine eq_false_of_ne_true fun hn => ?_
    rw [beside.reports] at hreport
    exact Bool.false_ne_true ((h.finished report hreport n).symm.trans (hway n hn))

/-- What a section that makes no submission has to keep to. -/
theorem of_same (h : Accounted setup log r) (advances : Advances setup.document n stage stage' r r')
    (hparting : ∀ parting, stage.parting? setup.document r.session = some parting → setup.sink.isSome →
      parting.isAnswered = false)
    (hdeliveries : r'.deliveries = r.deliveries)
    (hinHand : ∀ k, r.isUnderWay k = true → k ∈ r.session.pending ∨ k ∈ stage.handles →
      k ∈ r'.session.pending ∨ k ∈ stage'.handles)
    (htaken : ∀ other ∈ r'.calls, other.taken?.isSome → r'.session.pending = [])
    (hfinished : ∀ report, stage'.ending? = some report → ∀ k, r.isUnderWay k = false) :
    Accounted setup (log ++ [⟨n, stage, r.session⟩]) r' := by
  refine ⟨?_, fun k hk => ?_, htaken, fun report hreport k => ?_⟩
  · have hnone : toSubmit setup [⟨n, stage, r.session⟩] = [] := by
      refine List.filterMap_eq_nil_iff.mpr fun p hp => ?_
      obtain rfl := List.mem_singleton.mp hp
      refine Option.filter_eq_none_iff.mpr fun parting hmem hanswered => ?_
      obtain ⟨hsink, hanswered⟩ := Bool.and_eq_true_iff.mp hanswered
      rw [hparting parting hmem hsink] at hanswered
      cases hanswered
    rw [toSubmit, List.filterMap_append, ← toSubmit, ← toSubmit, hnone, List.append_nil, hdeliveries]
    exact h.submitted
  · rw [isUnderWay_of_same hdeliveries] at hk
    have of_own : k ∈ r.session.pending ∨ k ∈ stage.handles →
        k ∈ r'.session.pending ∨ ∃ other ∈ r'.calls, k ∈ other.handles := fun hown =>
      (hinHand k hk hown).imp_right fun hm => ⟨stage', List.mem_of_getElem? advances.getElem?_self, hm⟩
    rcases h.inHand k hk with hpending | ⟨other, ho, hm⟩
    · exact of_own (Or.inl hpending)
    · obtain ⟨j, hj⟩ := List.getElem?_of_mem ho
      by_cases hjn : j = n
      · subst hjn
        rw [advances.found] at hj
        obtain rfl := Option.some.inj hj
        exact of_own (Or.inr hm)
      · rw [← advances.getElem?_ne hjn] at hj
        exact Or.inr ⟨other, List.mem_of_getElem? hj, hm⟩
  · rw [isUnderWay_of_same hdeliveries]
    rcases advances.mem_reports hreport with hreport | hreport
    · exact h.finished report hreport k
    · exact hfinished report hreport k

omit [Grammars] in
/-- No call has taken over what is pending while another one has a submission to note. -/
theorem not_taken_of_note (regime : Regime r) {k : Nat} {destination : Destination}
    (hk : .note k destination ∈ r.calls) : ∀ other ∈ r.calls, other.taken? = none := by
  intro other ho
  cases htaken : other.taken? with
  | none => rfl
  | some answers =>
    obtain rfl := regime.eq_of_holds hk rfl ho (Stage.holds_of_taken? (by rw [htaken]; rfl))
    cases htaken

/-- A submission is made for the page that the section leaves, and the call has it in hand. -/
theorem queued {submitted : Answers} {parting : Parting} {destination : Destination} {delivery : Delivery}
    (h : Accounted setup log r) (regime : Regime r') (hsink : setup.sink.isSome)
    (advances : Advances setup.document n (.depart submitted) (.note r.deliveries.length destination) r r')
    (hparting : (Stage.depart submitted).parting? setup.document r.session = some parting)
    (hanswered : parting.isAnswered = true) (hcarries : setup.Carries parting delivery.submission)
    (hdeliveries : r'.deliveries = r.deliveries ++ [delivery]) (hpending : r'.session.pending = r.session.pending) :
    Accounted setup (log ++ [⟨n, .depart submitted, r.session⟩]) r' := by
  have hnote : Stage.note r.deliveries.length destination ∈ r'.calls := List.mem_of_getElem? advances.getElem?_self
  refine ⟨?_, fun k hk => ?_, fun other ho htaken => ?_, fun report hreport k => ?_⟩
  · have hone : toSubmit setup [⟨n, .depart submitted, r.session⟩] = [parting] := by
      simp only [toSubmit, List.filterMap_cons, List.filterMap_nil, hparting, Option.filter_some, hsink, hanswered,
        Bool.and_self, if_true]
    rw [toSubmit, List.filterMap_append, ← toSubmit, ← toSubmit, hone, hdeliveries, List.map_append]
    exact List.rel_append h.submitted (List.Forall₂.cons hcarries List.Forall₂.nil)
  · rw [hpending]
    rcases isUnderWay_of_concat hdeliveries hk with hk | rfl
    · refine (h.inHand k hk).imp_right ?_
      rintro ⟨other, ho, hm⟩
      obtain ⟨j, hj⟩ := List.getElem?_of_mem ho
      have hjn : j ≠ n := by
        rintro rfl
        rw [advances.found] at hj
        obtain rfl := Option.some.inj hj
        cases hm
      rw [← advances.getElem?_ne hjn] at hj
      exact ⟨other, List.mem_of_getElem? hj, hm⟩
    · exact Or.inr ⟨_, hnote, List.mem_singleton_self _⟩
  · rw [not_taken_of_note regime hnote other ho] at htaken
    cases htaken
  · rw [regime.reports_eq_nil hnote rfl] at hreport
    cases hreport

theorem passage (h : Accounted setup log r) (regime : Regime r) (regime' : Regime r')
    (advances : Advances setup.document n stage stage' r r')
    (hands : Hands setup r stage r'.deliveries r'.session.pending stage') :
    Accounted setup (log ++ [⟨n, stage, r.session⟩]) r' := by
  generalize hd : r'.deliveries = deliveries at hands
  generalize hp : r'.session.pending = pending at hands
  cases hands with
  | queued hsink hparting hanswered hcarries =>
    exact h.queued regime' hsink advances hparting hanswered hcarries hd hp
  | @noted k destination =>
    -- What is dropped from the pending ones is not under way.
    refine h.of_same advances nofun hd (fun j hj hown => Or.inl ?_) (fun other ho htaken => ?_) nofun
    · rw [hp, List.mem_append, List.mem_filter]
      exact hown.imp (fun hm => ⟨hm, hj⟩) id
    · rcases advances.mem_cases ho with ho | rfl
      · rw [not_taken_of_note regime advances.mem other ho] at htaken
        cases htaken
      · cases htaken
  | settled =>
    refine h.of_same advances nofun hd (fun j _ hown => Or.inr ?_) (fun _ _ _ => hp) nofun
    exact hown.resolve_right nofun
  | @awaited ns answers redirect due hdone =>
    -- The call is the only one to have submissions in hand, and nothing is pending since it took that over.
    have hpending : r.session.pending = [] := h.taken _ advances.mem rfl
    have nobody : ∀ j, r.isUnderWay j = false := fun j => by
      refine eq_false_of_ne_true fun hj => ?_
      rcases h.inHand j hj with hm | ⟨other, ho, hm⟩
      · rw [hpending] at hm
        cases hm
      · obtain rfl := regime.eq_of_holds advances.mem rfl ho (Stage.holds_of_mem_handles hm)
        rw [hdone j hm] at hj
        cases hj
    refine h.of_same advances nofun hd (fun j hj _ => ?_) (fun _ _ _ => hp.trans hpending) fun _ _ => nobody
    rw [nobody j] at hj
    cases hj
  | other hhandles hhandles' htaken' hparting =>
    refine h.of_same advances hparting hd (fun j _ hown => Or.inl ?_) (fun other ho htaken => ?_) fun report hreport => ?_
    · rw [hp]
      refine hown.resolve_right fun hm => ?_
      rw [hhandles] at hm
      cases hm
    · rw [hp]
      rcases advances.mem_cases ho with ho | rfl
      · exact h.taken other ho htaken
      · rw [htaken'] at htaken
        cases htaken
    · cases stage' with
      | tell => cases htaken'
      | record | depart | back | note | arrive | settle | await | clear | done => cases hreport

theorem move (h : Accounted setup log r) (hr : Reaches setup (Run.start setup store given) log r) {m : Move}
    (hm : r.move? setup m = some r') : Accounted setup (log ++ (r.passage? m).toList) r' := by
  have of_none : r.passage? m = none → Accounted setup log r' →
      Accounted setup (log ++ (r.passage? m).toList) r' := fun hp h' => by
    rw [hp, Option.toList_none, List.append_nil]
    exact h'
  cases m with
  | call c =>
    obtain rfl := Option.some.inj hm
    exact of_none rfl (h.aside ⟨rfl, ⟨[c], rfl⟩, rfl⟩ rfl fun _ hn => hn)
  | deliver k =>
    obtain ⟨beside, hsubmissions, hway⟩ := move?_deliver hm
    exact of_none rfl (h.aside beside hsubmissions hway)
  | cache =>
    obtain ⟨c, -, rfl⟩ := Option.map_eq_some_iff.mp hm
    exact of_none rfl (h.aside ⟨rfl, ⟨[], (List.append_nil _).symm⟩, rfl⟩ rfl fun _ hn => hn)
  | tick =>
    obtain rfl := Option.some.inj hm
    exact of_none rfl (h.aside ⟨rfl, ⟨[], (List.append_nil _).symm⟩, rfl⟩ rfl fun _ hn => hn)
  | advance k =>
    obtain ⟨stage, stage', r₁, advances, acts, rfl⟩ := move?_acts hm
    have regime := hr.regime (Regime.start setup store given)
    rw [passage?, advances.found, Option.map_some, Option.toList_some]
    exact h.passage regime (regime.passage advances) advances acts.hands

/-- Once the end is reported, every submission is done. -/
theorem isDone (h : Accounted setup log r) {report : Answers × Option String} (hreport : report ∈ r.reports)
    {delivery : Delivery} (hd : delivery ∈ r.deliveries) : delivery.isDone = true := by
  obtain ⟨n, hn⟩ := List.getElem?_of_mem hd
  refine eq_true_of_ne_false fun hdone => ?_
  have hway := h.finished report hreport n
  rw [isUnderWay_iff.mpr ⟨delivery, hn, hdone⟩] at hway
  cases hway

end Accounted

section
variable [Grammars] {setup : Setup} {store : Entries Answers} {given : Answers} {log : List Passage} {r : Run}

theorem Reaches.accounted (h : Reaches setup (start setup store given) log r) : Accounted setup log r := by
  induction h with
  | refl => exact Accounted.start setup store given
  | step m hr hm ih => exact ih.move hr hm

/-- In every run of a session, whatever the sink does and whenever it does it: the submissions that were made are one
for each answered page that was left, in that order, with the answers of its blocks and the ids of the document and the
session; and once the observer is being told of the end, every one of them is done. -/
theorem submitted_once (h : Reaches setup (start setup store given) log r) :
    List.Forall₂ setup.Carries (toSubmit setup log) (r.deliveries.map Delivery.submission) ∧
    ∀ report ∈ r.reports, ∀ delivery ∈ r.deliveries, delivery.isDone = true :=
  ⟨h.accounted.submitted, fun _ hreport _ hdelivery => h.accounted.isDone hreport hdelivery⟩

end

/-- Two pages with a question each, and a sink that takes its time and then rejects what it is given. -/
def rejecting : Setup where
  document := {
    id := "survey"
    pages := [
      { id := "first", blocks := [{ id := "question", kind := .textInput }] },
      { id := "second", blocks := [{ id := "other", kind := .textInput }] }] }
  sessionId := ⟨7⟩
  sink := some { time := fun _ => 1, accepts := fun _ => false }
  window := 0

/-- The first page is left, come back to and left again, after its first submission has arrived. -/
def leavingAgain : List Run.Move :=
  [.call (.next ((∅ : Answers).insert "question" (.text "a"))), .advance 0, .advance 0, .advance 0, .tick, .deliver 0,
    .call .previous, .advance 1, .call (.next ∅), .advance 2, .advance 2]

/-- The second page is then left for the end, whose report waits for what is under way. -/
def goingToTheEnd : List Run.Move :=
  [.advance 2, .call (.next ((∅ : Answers).insert "other" (.text "b"))), .advance 3, .advance 3, .advance 3, .advance 3,
    .tick, .deliver 2, .deliver 1, .advance 3]

open scoped Grammars in
/-- Three departures, two of them from the same page: the first submission has arrived by the second departure and is
pending no more; all three have been rejected when the observer is told of the end. -/
theorem submitted_once_of_rejected : ∃ log again log' r first second third,
    Reaches rejecting (start rejecting ∅ ∅) log again ∧ again.deliveries.length = 2 ∧ again.session.pending = [1] ∧
    Reaches rejecting (start rejecting ∅ ∅) (log ++ log') r ∧ r.reports.length = 1 ∧
    r.arrived = [0, 2, 1] ∧ r.deliveries.map Delivery.accepted = [some false, some false, some false] ∧
    toSubmit rejecting (log ++ log') = [first, second, third] ∧
    List.Forall₂ rejecting.Carries [first, second, third] (r.deliveries.map Delivery.submission) ∧
    ∀ delivery ∈ r.deliveries, delivery.isDone = true := by
  have again : Reaches rejecting (start rejecting ∅ ∅) _ _ := Reaches.of_follow? leavingAgain rfl
  have h := again.trans (Reaches.of_follow? goingToTheEnd rfl)
  obtain ⟨hcarries, hdone⟩ := submitted_once h
  exact ⟨_, _, _, _, _, _, _, again, rfl, rfl, h, rfl, rfl, rfl, rfl, hcarries, hdone _ List.mem_cons_self⟩

end Run

end Questionnaire
