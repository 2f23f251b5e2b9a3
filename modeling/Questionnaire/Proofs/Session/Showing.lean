import Questionnaire.Grammars.Builtin
import Questionnaire.Proofs.Number.Ratio
import Questionnaire.Proofs.Session.Answering
import Questionnaire.Proofs.Session.SingleFlight
import Questionnaire.Proofs.Validation.FirstFailure

/-!
# What is shown of a page

The view of a session puts together what its calls have changed at different times: the page, the hidden blocks, the
answers and variables, and the complaints. `Heard` says what the complaints are in every state of a run: those that the
latest request to go on was told on this visit of the page, about blocks that can be seen there.
-/

namespace Questionnaire

theorem Members.get?_map {α β : Type} (f : α → β) (members : List (String × α)) (name : String) :
    Members.get? name (members.map fun (name, a) => (name, f a)) = (Members.get? name members).map f := by
  induction members with
  | nil => rfl
  | cons e rest ih =>
    rw [List.map_cons, Members.get?, Members.get?, ih]
    split <;> rfl

theorem Entries.get?_mapValues {α β : Type} (f : α → β) (m : Entries α) (name : String) :
    (m.mapValues f).get? name = (m.get? name).map f := Members.get?_map f m.toList name

theorem Entries.names_mapValues {α β : Type} (f : α → β) (m : Entries α) : (m.mapValues f).names = m.names := by
  rw [names, names, mapValues, Members.names, Members.names, List.map_map]
  rfl

theorem Entries.names_ne_nil {α : Type} {m : Entries α} (h : m.isEmpty = false) : m.names ≠ [] := by
  rw [Ne, names, Members.names, List.map_eq_nil_iff, ← List.isEmpty_iff]
  exact ne_true_of_eq_false h

section
variable [Grammars] {blocks : List Block} {answers : Answers} {id : String}

/-- Complaints are about blocks. -/
theorem exists_of_complaints (h : id ∈ (complaints blocks answers).names) : ∃ b ∈ blocks, b.id = id := by
  obtain ⟨b, hb, hid, -⟩ := mem_names_complaints_iff.mp h
  exact ⟨b, hb, hid⟩

end

/-- The block is shown with its texts resolved, and is otherwise as it was. -/
structure IsShown (answers : Answers) (vars : Variables) (b shown : Block) : Prop where
  id : shown.id = b.id
  kind : shown.kind = b.kind
  validations : shown.validations = b.validations
  names : shown.properties.names = b.properties.names
  properties : ∀ name, shown.properties.get? name = (b.properties.get? name).map (Template.resolveJson answers vars)

theorem isShown_resolve (answers : Answers) (vars : Variables) (b : Block) :
    IsShown answers vars b (b.resolve answers vars) where
  id := rfl
  kind := rfl
  validations := rfl
  names := Entries.names_mapValues _ _
  properties := Entries.get?_mapValues _ _

namespace Run

/-- What is decided where a passage is that of a request to go on. -/
def Passage.decision? [Grammars] (d : Document) (p : Passage) : Option Decision :=
  match p.stage with
  | .depart submitted => some (p.session.depart d submitted).2
  | _ => none

/-- The passages since the session came to its page. -/
def visit (d : Document) (log : List Passage) : List Passage := log.rtakeWhile fun p => (p.landing? d).isNone

/-- The complaints of a session are those that the latest request to go on has been told on this visit of its page. They
are about blocks that can be seen there. -/
structure Heard [Grammars] (d : Document) (log : List Passage) (s : Session) : Prop where
  silent : s.phase.isActive = false → s.complaints = none
  latest : s.phase.isActive = true → ∃ told : List Complaints,
    (visit d log).filterMap (Passage.decision? d) = told.map .invalid ∧ s.complaints = told.getLast?
  found : ∀ i, s.phase = .active i → ∀ complaints ∈ s.complaints,
    ∃ answers, validate (s.visible d i) answers = some complaints

section
variable [Grammars] {d : Document} {s s' : Session} {log : List Passage} {p : Passage} {n i : Nat}
  {stage stage' : Stage}

omit [Grammars] in
theorem visit_concat_of_landing (h : (p.landing? d).isSome) : visit d (log ++ [p]) = [] := by
  refine List.rtakeWhile_concat_neg _ _ _ ?_
  rw [Option.isNone_eq_false_iff.mpr h]
  exact Bool.false_ne_true

omit [Grammars] in
theorem visit_concat_of_none (h : p.landing? d = none) : visit d (log ++ [p]) = visit d log ++ [p] :=
  List.rtakeWhile_concat_pos _ _ _ (by rw [h]; rfl)

/-- Nothing has been told where no page is active. -/
theorem Heard.of_silence (ha : s.phase.isActive = false) (hc : s.complaints = none) : Heard d log s where
  silent _ := hc
  latest hactive := by
    rw [ha] at hactive
    cases hactive
  found i hi := by
    rw [hi] at ha
    cases ha

/-- Nor where the session has just come to its page. -/
theorem Heard.of_landing (hl : (p.landing? d).isSome) (hc : s.complaints = none) : Heard d (log ++ [p]) s where
  silent _ := hc
  latest _ := ⟨[], by rw [visit_concat_of_landing hl]; rfl, hc⟩
  found i hi complaints hcomplaints := by
    rw [hc] at hcomplaints
    cases hcomplaints

theorem Heard.of_quiet (h : Heard d log s) (hphase : s'.phase = s.phase) (hc : s'.complaints = s.complaints)
    (hhidden : s'.hidden = s.hidden) (hl : p.landing? d = none) (hd : p.decision? d = none) :
    Heard d (log ++ [p]) s' where
  silent ha := by
    rw [hc]
    exact h.silent (hphase ▸ ha)
  latest ha := by
    obtain ⟨told, htold, hlast⟩ := h.latest (hphase ▸ ha)
    refine ⟨told, ?_, hc.trans hlast⟩
    rw [visit_concat_of_none hl, List.filterMap_append, htold, List.filterMap_cons_none hd, List.filterMap_nil,
      List.append_nil]
  found i hi complaints hcomplaints := by
    rw [Session.visible, hhidden]
    exact h.found i (hphase ▸ hi) complaints (hc ▸ hcomplaints)

theorem Heard.of_rejection {submitted : Answers} {complaints : Complaints} (h : Heard d log s)
    (hi : s.phase = .active i)
    (hv : validate (s.visible d i) (s.answers.extend submitted) = some complaints) :
    Heard d (log ++ [⟨n, .depart submitted, s⟩])
      { s with answers := s.answers.extend submitted, complaints := some complaints } where
  silent ha := by
    rw [hi] at ha
    cases ha
  latest ha := by
    obtain ⟨told, htold, -⟩ := h.latest ha
    refine ⟨told ++ [complaints], ?_, List.getLast?_concat.symm⟩
    have hdecision : (⟨n, .depart submitted, s⟩ : Passage).decision? d = some (.invalid complaints) := by
      simp only [Passage.decision?, Session.depart_of_invalid hi hv]
    rw [visit_concat_of_none rfl, List.filterMap_append, htold, List.filterMap_cons_some hdecision, List.filterMap_nil,
      List.map_append]
    rfl
  found j hj found hfound := by
    obtain rfl := Option.some.inj hfound
    rw [hi] at hj
    obtain rfl := Phase.active.inj hj
    exact ⟨_, hv⟩

/-- A request to go on that is told complaints has them for its answer. -/
theorem stage_of_decision {complaints : Complaints} (effect : Effect d p.session p.stage s' stage')
    (hd : p.decision? d = some (.invalid complaints)) : stage' = .done (some (.invalid complaints)) := by
  obtain ⟨n, stage, s⟩ := p
  cases stage with
  | depart submitted =>
    cases effect with
    | refused ha =>
      simp only [Passage.decision?, Session.depart_of_not_active ha] at hd
      cases hd
    | rejected hi hv =>
      simp only [Passage.decision?, Session.depart_of_invalid hi hv] at hd
      cases hd
      rfl
    | departed hi hv =>
      simp only [Passage.decision?, Session.depart_of_valid hi hv] at hd
      cases hd
  | record | back | note | arrive | settle | await | tell | clear | done => cases hd

theorem Heard.passage (h : Heard d log s) (effect : Effect d s stage s' stage')
    (hpage : ∀ i snapshot rest, s.phase = .active i → s.history = snapshot :: rest →
      ∃ page, d.pages[snapshot.index]? = some page)
    (harrival : ∀ destination, stage = .arrive destination → s.phase.isActive = false) :
    Heard d (log ++ [⟨n, stage, s⟩]) s' := by
  cases effect with
  | refused ha => exact .of_silence ha (h.silent ha)
  | rejected hi hv => exact h.of_rejection hi hv
  | departed => exact .of_silence rfl rfl
  | recorded | noted | settled | awaited | told | cleared => exact h.of_quiet rfl rfl rfl rfl rfl
  | stayed hi hh =>
    refine h.of_quiet rfl rfl rfl ?_ rfl
    simp only [Passage.landing?, Session.back_of_empty hh]
  | returned hi hh =>
    obtain ⟨page, hp⟩ := hpage _ _ _ hi hh
    refine .of_landing ?_ rfl
    simp only [Passage.landing?, Session.back_of_snapshot hi hh, hp, Option.map_some, Option.getD_some,
      Option.isSome_some]
  | @arrived destination =>
    have hc := h.silent (harrival destination rfl)
    cases destination with
    | page => exact .of_landing rfl hc
    | elsewhere | finish => exact .of_silence rfl hc

end

section
variable [Grammars] {setup : Setup} {store : Entries Answers} {given : Answers} {log : List Passage} {r : Run} {i : Nat}
  {page : Page} {p : Passage} {complaints : Complaints}

theorem Reaches.heard (h : Reaches setup (start setup store given) log r) : Heard setup.document log r.session := by
  induction h using Reaches.by_passages with
  | start => exact ⟨fun _ => rfl, fun _ => ⟨[], rfl, rfl⟩, fun _ _ _ hc => by cases hc⟩
  | aside _ _ beside ih =>
    rw [beside.session]
    exact ih
  | passage h _ advances ih =>
    refine ih.passage advances.effect (fun i snapshot rest => h.derived.page_of_snapshot) fun destination harrive => ?_
    subst harrive
    exact (h.regime (Regime.start setup store given)).not_active_of_holds advances.mem rfl

theorem Reaches.answered_of_decision (h : Reaches setup (start setup store given) log r) (hp : p ∈ log)
    (hd : p.decision? setup.document = some (.invalid complaints)) :
    r.calls[p.call]? = some (.done (some (.invalid complaints))) := by
  obtain ⟨before, after, rfl⟩ := List.append_of_mem hp
  obtain ⟨r₁, r₂, stage', -, hs, advances, -, hafter⟩ := h.split
  obtain rfl := stage_of_decision (hs ▸ advances.effect) hd
  exact (hafter.not_done advances.getElem?_self).1

theorem Reaches.view?_of_active (h : Reaches setup (start setup store given) log r) (hi : r.session.phase = .active i)
    (hp : setup.document.pages[i]? = some page) : r.session.view? setup.document = some
      { page := page.ref i
        blocks := (page.visible r.session.hidden).map (Block.resolve r.session.answers r.session.vars)
        buttonText := Template.resolveText r.session.answers r.session.vars page.buttonText
        complaints := r.session.complaints
        progress := Number.ofRatio i setup.document.pageCount } := by
  have hcount : max setup.document.pageCount 1 = setup.document.pageCount :=
    max_eq_left (Nat.one_le_iff_ne_zero.mpr (Nat.ne_zero_of_lt (List.getElem?_eq_some_iff.mp hp).1))
  rw [Session.view?, hi, h.index i (Or.inl hi), hp, hcount]
  rfl

/-- In every run, however the sections of its calls are ordered, the view of an active page that is there shows this
page as it is now. Its blocks are those of the page that are not hidden, in the order of the page, each with its own
id, kind and validations, and with its properties resolved. Every request to go on that was decided on this visit of
the page, that is, since the session came to it last, was told complaints, which are the answer to its call; the view
has those of the latest one, and none if there was no such request, as when the session has just come to the page by
going on or back. The complaints that the view has are not empty and are about blocks in it. The progress is the float
nearest to the index over the number of pages: this ratio is at least zero and below one, and so is the float, which
would only be one in a document of 2^54 pages or more. -/
theorem view_shows_page (h : Reaches setup (start setup store given) log r) (hi : r.session.phase = .active i)
    (hp : setup.document.pages[i]? = some page) :
    ∃ view, r.session.view? setup.document = some view ∧ view.page = page.ref i ∧
      List.Forall₂ (IsShown r.session.answers r.session.vars)
        (page.blocks.filter fun b => b.id ∉ r.session.hidden) view.blocks ∧
      (∃ told : List Complaints,
        (visit setup.document log).filterMap (Passage.decision? setup.document) = told.map .invalid ∧
        view.complaints = told.getLast?) ∧
      (∀ p ∈ visit setup.document log, ∀ complaints, p.decision? setup.document = some (.invalid complaints) →
        r.calls[p.call]? = some (.done (some (.invalid complaints)))) ∧
      (∀ earlier p, log = earlier ++ [p] → (p.landing? setup.document).isSome → view.complaints = none) ∧
      (∀ complaints ∈ view.complaints, complaints.names ≠ [] ∧
        ∀ id ∈ complaints.names, ∃ b ∈ view.blocks, b.id = id) ∧
      view.progress = Number.ofRatio i setup.document.pageCount ∧
      (0 : ℚ) ≤ i / setup.document.pageCount ∧ (i : ℚ) / setup.document.pageCount < 1 ∧
      |(Number.magnitude view.progress).value - i / setup.document.pageCount| ≤ 1 / 2 ^ 54 ∧
      0.0 ≤ view.progress ∧ view.progress ≤ 1.0 ∧ (setup.document.pageCount < 2 ^ 54 → view.progress < 1.0) := by
  have heard := h.heard
  have hactive : r.session.phase.isActive = true := by
    rw [hi]
    rfl
  have hlt : i < setup.document.pageCount := (List.getElem?_eq_some_iff.mp hp).1
  obtain ⟨told, htold, hlast⟩ := heard.latest hactive
  refine ⟨_, h.view?_of_active hi hp, rfl, ?_, ⟨told, htold, hlast⟩, fun p hmem complaints => ?_,
    fun earlier p hlog hl => ?_, fun complaints hcomplaints => ?_, rfl, by positivity, ?_, Number.ofRatio_near hlt, Number.ofRatio_order hlt⟩
  · exact List.forall₂_map_right_iff.mpr (List.forall₂_same.mpr fun b _ => isShown_resolve _ _ b)
  · exact h.answered_of_decision ((List.rtakeWhile_suffix _ _).mem hmem)
  · rw [hlog, visit_concat_of_landing hl, List.filterMap_nil, eq_comm, List.map_eq_nil_iff] at htold
    rw [hlast, htold]
    rfl
  · obtain ⟨answers, hv⟩ := heard.found i hi complaints hcomplaints
    obtain ⟨rfl, hsome⟩ := validate_eq_some_iff.mp hv
    refine ⟨Entries.names_ne_nil hsome, fun id hid => ?_⟩
    obtain ⟨b, hb, hname⟩ := exists_of_complaints hid
    rw [Session.visible, hp] at hb
    exact ⟨b.resolve r.session.answers r.session.vars, List.mem_map_of_mem hb, hname⟩
  · rw [div_lt_one (by exact_mod_cast Nat.zero_lt_of_lt hlt)]
    exact_mod_cast hlt

end

/-- A page whose rule hides the second block of the next one, and the page with an answer that is required. -/
def pressed : Setup where
  document :=
    { pages := [{ id := "first" }, { id := "second", blocks :=
        [{ id := "question", kind := .textInput, validations := [.required] },
          { id := "secret", kind := .textInput }] }]
      rules := [⟨"first", [⟨.hide, .always, { target := some ⟨.block, "secret"⟩ }⟩]⟩] }
  window := 0

open scoped Grammars in
/-- On to the second page and on from there without an answer: one block is shown, and the complaint is about it. -/
theorem view_shows_page_of_rejected : ∃ log r view complaints, Reaches pressed (start pressed ∅ ∅) log r ∧
    r.session.phase = .active 1 ∧ r.session.view? pressed.document = some view ∧ view.page = ⟨"second", 1, ""⟩ ∧
    view.blocks.length = 1 ∧ view.complaints = some complaints ∧ complaints.names = ["question"] ∧
    (∀ id ∈ complaints.names, ∃ b ∈ view.blocks, b.id = id) ∧ view.progress < 1.0 := by
  have run : ((start pressed ∅ ∅).follow? pressed [.call (.next ∅), .advance 0, .advance 0, .call (.next ∅),
      .advance 1]).map (fun reached => (reached.2.session.phase, reached.2.session.hidden,
        reached.2.session.complaints.map Entries.names)) = some (.active 1, ["secret"], some ["question"]) := by
    decide +kernel
  obtain ⟨⟨log, r⟩, hr, hplace⟩ := Option.map_eq_some_iff.mp run
  obtain ⟨hi, hrest⟩ := Prod.mk.inj hplace
  obtain ⟨hhidden, hnames⟩ := Prod.mk.inj hrest
  have h := Reaches.of_follow? _ hr
  obtain ⟨complaints, hcomplaints, hname⟩ := Option.map_eq_some_iff.mp hnames
  obtain ⟨view, hview, hpage, hblocks, -, -, -, hours, -, -, -, -, -, -, hprogress⟩ := view_shows_page h hi rfl
  have hsame : view.complaints = some complaints := by
    rw [← hcomplaints, ← Option.some.inj ((h.view?_of_active hi rfl).symm.trans hview)]
  refine ⟨log, r, view, complaints, h, hi, hview, hpage, ?_, hsame, hname, (hours complaints hsame).2,
    hprogress (by decide)⟩
  rw [← hblocks.length_eq, hhidden]
  rfl

end Run

end Questionnaire
