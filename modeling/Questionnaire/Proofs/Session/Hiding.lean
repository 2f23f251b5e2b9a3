import Questionnaire.Grammars.Builtin
import Questionnaire.Proofs.Session.Pressing

/-!
# Hidden blocks are inert

A page is walked through where it is shown, left and answered, and each time only the blocks that are not hidden are
looked at. So a page might as well be without the blocks that are hidden on it: while it is active, and until a page is
come to again, the session goes exactly as it would go over the document without them. `Covered` says where the two
documents cannot be told apart, `Run.move?_without` that no move tells them apart there, and
`Run.hidden_blocks_are_inert` follows a session for as long as that lasts.
-/

namespace Questionnaire

/-- The document with the blocks of those ids deleted from page `i`. -/
def Document.without (d : Document) (i : Nat) (ids : List String) : Document :=
  { d with pages := d.pages.modify i fun p => { p with blocks := p.visible ids } }

def Setup.without (setup : Setup) (i : Nat) (ids : List String) : Setup :=
  { setup with document := setup.document.without i ids }

namespace Document

/-- What was deleted is a matter of the blocks of page `i` alone. -/
theorem getElem?_without (d : Document) (i : Nat) (ids : List String) (k : Nat) :
    (d.without i ids).pages[k]? =
      (d.pages[k]?).map fun p => { p with blocks := if i = k then p.visible ids else p.blocks } := by
  rw [without, List.getElem?_modify]
  by_cases hk : i = k
  · simp only [hk, if_true]
    rfl
  · simp only [hk, if_false]
    cases d.pages[k]? <;> rfl

theorem pageIndex?_without (d : Document) (i : Nat) (ids : List String) :
    (d.without i ids).pageIndex? = d.pageIndex? := by
  have hids : (d.without i ids).pages.map Page.id = d.pages.map Page.id := by
    refine List.ext_getElem? fun k => ?_
    rw [List.getElem?_map, List.getElem?_map, getElem?_without]
    cases d.pages[k]? <;> rfl
  have hof : ∀ (d : Document) id, d.pageIndex? id = (d.pages.map Page.id).findIdx? fun other => other == id := by
    intro d id
    rw [List.findIdx?_map]
    rfl
  funext id
  rw [hof, hof, hids]

theorem outcome_without (d : Document) (i : Nat) (ids : List String) (k : Nat) (answers : Answers) (vars : Variables) :
    (d.without i ids).outcome (d.without i ids).pages[k]? answers vars = d.outcome d.pages[k]? answers vars := by
  rw [getElem?_without, outcome, outcome]
  cases d.pages[k]? <;> rfl

end Document

namespace Session
variable {d : Document} {s : Session} {i : Nat} {ids : List String}

/-- The blocks of those ids cannot be seen on page `i`, should it be active. -/
def Covered (i : Nat) (ids : List String) (s : Session) : Prop := s.phase = .active i → ∀ id ∈ ids, id ∈ s.hidden

theorem destination_without (d : Document) (i : Nat) (ids : List String) (k : Nat) (o : Outcome) :
    destination (d.without i ids) k o = destination d k o := by
  have hindex : nextIndex (d.without i ids) k o = nextIndex d k o := by
    rw [nextIndex, nextIndex, Document.pageIndex?_without]
  have hredirect : ((d.without i ids).pages[k]?).bind Page.redirect? = (d.pages[k]?).bind Page.redirect? := by
    rw [Document.getElem?_without]
    cases d.pages[k]? <;> rfl
  simp only [destination, hindex, hredirect]
  generalize nextIndex d k o = j
  rw [Document.getElem?_without]
  cases (d.pages[k]?).bind Page.redirect? with
  | some url => rfl
  | none => cases d.pages[j]? <;> rfl

/-- What can be seen is the same with and without what cannot. -/
theorem Covered.visible_without (h : s.Covered i ids) (d : Document) {k : Nat} (hk : s.phase = .active k) :
    s.visible (d.without i ids) k = s.visible d k := by
  rw [visible, visible, Document.getElem?_without]
  cases d.pages[k]? with
  | none => rfl
  | some p =>
    simp only [Option.map_some, Option.getD_some, Page.visible]
    by_cases hik : i = k
    · -- A block of that page that can be seen is not among the deleted ones, which are all hidden.
      rw [if_pos hik, List.filter_filter]
      refine List.filter_congr fun b _ => ?_
      have hboth : b.id ∉ s.hidden → b.id ∉ ids := fun hb hmem => hb (h (hik ▸ hk) b.id hmem)
      by_cases hb : b.id ∈ s.hidden
      · simp only [hb, not_true_eq_false, decide_false, Bool.false_and]
      · simp only [hb, hboth hb, not_false_eq_true, decide_true, Bool.and_self]
    · rw [if_neg hik]

/-- The page without its hidden blocks has those blocks left that can be seen. -/
theorem blocks_without (d : Document) (i : Nat) (s : Session) :
    (((d.without i s.hidden).pages[i]?).map Page.blocks).getD [] = s.visible d i := by
  rw [Document.getElem?_without, visible]
  cases d.pages[i]? with
  | none => rfl
  | some p => simp only [Option.map_some, if_true]

theorem not_mem_hidden_of_visible {k : Nat} {b : Block} (h : b ∈ s.visible d k) : b.id ∉ s.hidden := by
  unfold visible at h
  cases hp : d.pages[k]? with
  | none =>
    rw [hp] at h
    cases h
  | some p =>
    rw [hp, Option.map_some, Option.getD_some, Page.visible, List.mem_filter, decide_eq_true_iff] at h
    exact h.2

theorem record_without (d : Document) (h : s.Covered i ids) (id : String) (v : Json) :
    s.record (d.without i ids) id v = s.record d id v := by
  cases ha : s.phase.isActive with
  | false => rw [record_of_not_active ha, record_of_not_active ha]
  | true =>
    obtain ⟨k, hk⟩ := Phase.isActive_iff.mp ha
    rw [record_of_active hk, record_of_active hk, advancesOn, advancesOn, h.visible_without d hk]

theorem depart_without [Grammars] (d : Document) (h : s.Covered i ids) (submitted : Answers) :
    s.depart (d.without i ids) submitted = s.depart d submitted := by
  cases ha : s.phase.isActive with
  | false => rw [depart_of_not_active ha, depart_of_not_active ha]
  | true =>
    obtain ⟨k, hk⟩ := Phase.isActive_iff.mp ha
    have hvisible := h.visible_without d hk
    cases hv : validate (s.visible d k) (s.answers.extend submitted) with
    | some complaints =>
      rw [depart_of_invalid hk (hvisible ▸ hv), depart_of_invalid hk hv]
    | none =>
      have hleft : s.left (d.without i ids) k submitted = s.left d k submitted := by
        rw [left, left, Document.outcome_without]
      have htoward : s.toward (d.without i ids) k submitted = s.toward d k submitted := by
        rw [toward, toward, Document.outcome_without, destination_without]
      rw [depart_of_valid hk (hvisible ▸ hv), depart_of_valid hk hv, hvisible, hleft, htoward,
        Document.getElem?_without]
      cases d.pages[k]? <;> rfl

theorem back_without (d : Document) (i : Nat) (ids : List String) (s : Session) :
    s.back (d.without i ids) = s.back d := by
  cases ha : s.phase.isActive with
  | false => rw [back_of_not_active ha, back_of_not_active ha]
  | true =>
    obtain ⟨k, hk⟩ := Phase.isActive_iff.mp ha
    cases hh : s.history with
    | nil => rw [back_of_empty hh, back_of_empty hh]
    | cons snapshot rest =>
      rw [back_of_snapshot hk hh, back_of_snapshot hk hh, Document.getElem?_without]
      cases d.pages[snapshot.index]? <;> rfl

theorem view?_without (d : Document) (h : s.Covered i ids) (hindex : s.phase = .active s.index) :
    s.view? (d.without i ids) = s.view? d := by
  have hvisible := h.visible_without d hindex
  have hcount : (d.without i ids).pageCount = d.pageCount := List.length_modify _ _ _
  simp only [visible] at hvisible
  simp only [view?, hcount]
  rw [Document.getElem?_without] at hvisible ⊢
  cases hp : d.pages[s.index]? with
  | none => rfl
  | some p =>
    rw [hp] at hvisible
    simp only [Option.map_some, Option.getD_some] at hvisible ⊢
    rw [hvisible]
    rfl

/-- The calls from inside the observer are answered alike, since they find that the page has been left. -/
theorem attemptAll_without [Grammars] (d : Document) (i : Nat) (ids : List String) (hp : s.phase.isActive = false)
    (calls : List Call) : s.attemptAll (d.without i ids) calls = s.attemptAll d calls := by
  have hcovered : s.Covered i ids := fun hi => by rw [hi] at hp; cases hp
  induction calls with
  | nil => rfl
  | cons c rest ih =>
    have hfirst : s.attempt (d.without i ids) c = s.attempt d c := by
      cases c with
      | next submitted => simp only [attempt, depart_without d hcovered]
      | set id v => simp only [attempt, record_without d hcovered]
      | previous => simp only [attempt, back_without]
    simp only [attemptAll, hfirst, Run.attempt_of_not_active hp, ih]

end Session

namespace Run

section
variable [Grammars] {setup : Setup} {i : Nat} {ids : List String} {r r' : Run} {stage : Stage} {m : Move} {n : Nat}
  {t : Option Transition}

theorem complete_without (setup : Setup) (i : Nat) (ids : List String) (hp : r.session.phase.isActive = false)
    (c : Completion) : r.complete (setup.without i ids) c = r.complete setup c := by
  have hreenter : (r.tell (.completed c)).reenter (setup.without i ids) = (r.tell (.completed c)).reenter setup := by
    have hp' : (r.tell (.completed c)).session.phase.isActive = false := hp
    simp only [reenter, Setup.without, Session.attemptAll_without setup.document i ids hp']
  simp only [complete, hreenter]
  rfl

/-- A section does the same over both documents where they cannot be told apart. -/
theorem advance?_without (h : r.session.Covered i ids) (stage : Stage) :
    r.advance? (setup.without i ids) stage = r.advance? setup stage := by
  have hdocument : (setup.without i ids).document = setup.document.without i ids := rfl
  cases stage with
  | record id v =>
    simp only [advance?, hdocument, Session.record_without setup.document h]
    rfl
  | depart submitted =>
    simp only [advance?, hdocument, Session.depart_without setup.document h]
    generalize hdepart : r.session.depart setup.document submitted = departed
    obtain ⟨s, decision⟩ := departed
    cases decision with
    | ignored | invalid => rfl
    | departed departure =>
      obtain ⟨completion, destination⟩ := departure
      cases completion with
      | none => rfl
      | some c =>
        have hp := Session.not_active_of_departed hdepart
        simp only [complete_without setup i ids (r := { r with session := s }) hp]
  | back =>
    simp only [advance?, hdocument, Session.back_without]
  | note | arrive | settle | await | tell | clear | done => rfl

/-- What goes on by itself does not depend on the pages, and no call tells the documents apart where the blocks are
covered. -/
theorem move?_without (m : Move) (h : m.isAmbient = true ∨ r.session.Covered i ids) :
    r.move? (setup.without i ids) m = r.move? setup m := by
  cases m with
  | advance n =>
    have hcovered := h.resolve_left fun hm => by cases hm
    simp only [move?, advance?_without hcovered]
  | call | deliver | cache | tick => rfl

/-- A section leaves the blocks covered, or it ends its call. -/
theorem covered_of_effect {d : Document} {s s' : Session} {stage' : Stage} (h : Effect d s stage s' stage')
    (hc : s.Covered i ids) : s'.Covered i ids ∨ ∃ t, stage' = .done t := by
  cases h with
  | refused | rejected | stayed | returned | cleared => exact Or.inr ⟨_, rfl⟩
  | recorded | noted | settled | awaited | told => exact Or.inl hc
  | departed => exact Or.inl fun hi => by cases hi
  | @arrived destination =>
    cases destination with
    | page p => exact Or.inr ⟨_, rfl⟩
    | elsewhere | finish => exact Or.inl fun hi => by cases hi

/-- Setups that agree on the moves while the blocks are covered complete a call alike: once they need not be covered any
more, the call has come to its end. -/
theorem Completes.of_covered {setup' : Setup}
    (hmove : ∀ (r : Run) (m : Move), m.isAmbient = true ∨ r.session.Covered i ids → r.move? setup' m = r.move? setup m)
    (h : Completes setup n r t r') (hc : r.session.Covered i ids ∨ ∃ t, r.calls[n]? = some (.done t)) :
    Completes setup' n r t r' := by
  induction h with
  | done hdone => exact .done hdone
  | @step r r₁ r' t m hfor hm _ ih =>
    rcases Move.isAmbient_or_advance hfor with ham | rfl
    · obtain ⟨hsession, hcalls, -⟩ := move?_still ham hm
      have hrest := ih (by rw [hsession, hcalls]; exact hc)
      exact .step m hfor (by rw [hmove r m (Or.inl ham), hm]) hrest
    · obtain ⟨stage, stage', advances⟩ := move?_advance hm
      have hcovered : r.session.Covered i ids := by
        rcases hc with hc | ⟨t, hdone⟩
        · exact hc
        · -- The rank of a stage falls with each section, and that of a done call is zero.
          have hlt := advances.effect.rank_lt
          have hstage := advances.found
          rw [hdone] at hstage
          obtain rfl := Option.some.inj hstage
          exact absurd hlt (Nat.not_lt_zero _)
      have hrest := ih ((covered_of_effect advances.effect hcovered).imp_right fun ⟨t, ht⟩ =>
        ⟨t, by rw [advances.getElem?_self, ht]⟩)
      exact .step (.advance n) hfor (by rw [hmove r _ (Or.inr hcovered), hm]) hrest

theorem Completes.without_iff (h : r.session.Covered i ids) :
    Completes setup n r t r' ↔ Completes (setup.without i ids) n r t r' := by
  constructor
  · intro hcompletes
    exact hcompletes.of_covered (fun _ m hm => move?_without m hm) (Or.inl h)
  · intro hcompletes
    exact hcompletes.of_covered (fun _ m hm => (move?_without m hm).symm) (Or.inl h)

end

/-! ### While no page is come to -/

/-- A page that is active after a section that came to none was active before, with the same blocks hidden. -/
theorem hidden_of_effect [Grammars] {d : Document} {s s' : Session} {stage stage' : Stage} {n k : Nat}
    (h : Effect d s stage s' stage') (hl : (⟨n, stage, s⟩ : Passage).landing? d = none)
    (hpage : ∀ i snapshot rest, s.phase = .active i → s.history = snapshot :: rest →
      ∃ page, d.pages[snapshot.index]? = some page)
    (hk : s'.phase = .active k) : s.phase = .active k ∧ s'.hidden = s.hidden := by
  cases h with
  | refused | recorded | rejected | stayed | noted | settled | awaited | told | cleared => exact ⟨hk, rfl⟩
  | departed => cases hk
  | returned hi hh =>
    obtain ⟨page, hp⟩ := hpage _ _ _ hi hh
    simp only [Passage.landing?, Session.back_of_snapshot hi hh, hp, Option.map_some, Option.getD_some] at hl
    cases hl
  | @arrived destination =>
    cases destination with
    | page => cases hl
    | elsewhere | finish => cases hk

section
variable [Grammars] {setup : Setup} {store : Entries Answers} {given : Answers} {log log' : List Passage} {r r' : Run}
  {i k : Nat}

theorem Reaches.hidden_of_no_landing (h : Reaches setup (start setup store given) log r) (h' : Reaches setup r log' r')
    (hl : landings setup.document log' = []) (hk : r'.session.phase = .active k) :
    r.session.phase = .active k ∧ r'.session.hidden = r.session.hidden := by
  induction h' using Reaches.by_passages with
  | start => exact ⟨hk, rfl⟩
  | aside _ _ beside ih =>
    rw [beside.session] at hk ⊢
    exact ih hl hk
  | @passage log' r' r'' n stage stage' h' _ advances ih =>
    rw [landings_append] at hl
    obtain ⟨hlog, hlast⟩ := List.append_eq_nil_iff.mp hl
    have hnone := List.filterMap_eq_nil_iff.mp hlast _ (List.mem_singleton_self _)
    obtain ⟨hk', hhidden⟩ := hidden_of_effect advances.effect hnone
      (fun _ _ _ => (h.trans h').derived.page_of_snapshot) hk
    obtain ⟨hphase, hsame⟩ := ih hlog hk'
    exact ⟨hphase, hhidden.trans hsame⟩

/-- What is hidden on a page stays covered there until a page is come to. -/
theorem Reaches.covered (h : Reaches setup (start setup store given) log r) (h' : Reaches setup r log' r')
    (hl : landings setup.document log' = []) : r'.session.Covered i r.session.hidden := by
  intro hi id hid
  rw [(h.hidden_of_no_landing h' hl hi).2]
  exact hid

theorem Reaches.without_iff (h : Reaches setup (start setup store given) log r)
    (hl : landings setup.document log' = []) :
    Reaches setup r log' r' ↔ Reaches (setup.without i r.session.hidden) r log' r' := by
  constructor
  · intro h'
    induction h' with
    | refl => exact Reaches.refl
    | step m h' hm ih =>
      rw [landings_append] at hl
      have hlog := (List.append_eq_nil_iff.mp hl).1
      exact (ih hlog).step m (by rw [move?_without m (Or.inr (h.covered h' hlog)), hm])
  · intro h'
    induction h' with
    | refl => exact Reaches.refl
    | step m _ hm ih =>
      rw [landings_append] at hl
      have hlog := (List.append_eq_nil_iff.mp hl).1
      exact (ih hlog).step m (by rw [← hm, move?_without m (Or.inr (h.covered (ih hlog) hlog))])

/-- **Hidden blocks are inert.** In every run, take a page that is active and the document without the blocks that are
hidden on it. As long as no page is come to, the same runs are possible over both documents, every move does the same
to them, and every call that is under way or made then completes with the same answer and in the same run: the same
complaints, the same destination, the same answers handed on. Meanwhile the page, as long as it is active, is shown the
same, and an answer that is to be recorded is. It goes on just if it ends the page without the hidden blocks; where its
block is hidden, it is done. -/
theorem hidden_blocks_are_inert (h : Reaches setup (start setup store given) log r) (hi : r.session.phase = .active i) :
    let bare := setup.without i r.session.hidden
    let blocks := ((bare.document.pages[i]?).map Page.blocks).getD []
    (∀ log' r', landings setup.document log' = [] → (Reaches setup r log' r' ↔ Reaches bare r log' r')) ∧
    ∀ log' r', landings setup.document log' = [] → Reaches setup r log' r' →
      (∀ m, r'.move? bare m = r'.move? setup m) ∧
      (∀ n t r'', Completes setup n r' t r'' ↔ Completes bare n r' t r'') ∧
      ∀ j, r'.session.phase = .active j → j = i ∧ r'.session.hidden = r.session.hidden ∧
        r'.session.view? bare.document = r'.session.view? setup.document ∧
        ∀ n id v, r'.calls[n]? = some (.record id v) → ∃ r₁, r'.move? setup (.advance n) = some r₁ ∧
          r₁.session = { r'.session with answers := r'.session.answers.insert id v } ∧
          (r₁.calls[n]? = some (Call.next ∅).stage ↔ EndsPage id blocks) ∧
          (id ∈ r.session.hidden → r₁.calls[n]? = some (.done none)) := by
  intro bare blocks
  refine ⟨fun log' r' hl => h.without_iff hl, fun log' r' hl h' => ?_⟩
  have hcovered : r'.session.Covered i r.session.hidden := h.covered h' hl
  refine ⟨fun m => move?_without m (Or.inr hcovered), fun n t r'' => Completes.without_iff hcovered, fun j hj => ?_⟩
  obtain ⟨hphase, hhidden⟩ := h.hidden_of_no_landing h' hl hj
  obtain rfl : i = j := by
    rw [hi] at hphase
    cases hphase
    rfl
  have hindex : r'.session.phase = .active r'.session.index := by
    rw [hj, (h.trans h').index i (Or.inl hj)]
  have hblocks : blocks = r'.session.visible setup.document i := by
    rw [← Session.blocks_without, hhidden]
    rfl
  refine ⟨rfl, hhidden, Session.view?_without setup.document hcovered hindex, fun n id v hn => ?_⟩
  have hlt := (List.getElem?_eq_some_iff.mp hn).1
  refine ⟨_, move?_record hn hj, rfl, ?_, fun hid => ?_⟩
  · rw [List.getElem?_set_self hlt, hblocks, ← Session.advancesOn_iff]
    by_cases hends : r'.session.advancesOn setup.document i id = true
    · rw [if_pos hends]
      exact iff_of_true rfl hends
    · rw [if_neg hends]
      exact iff_of_false (fun hstage => by cases hstage) hends
  · rw [List.getElem?_set_self hlt, if_neg]
    rw [Session.advancesOn_iff]
    rintro ⟨⟨b, hb, rfl⟩, -, -⟩
    refine Session.not_mem_hidden_of_visible hb ?_
    rw [hhidden]
    exact hid

end

/-- A page whose rule hides a text on the next one that nobody could do without; what is left is a dropdown. -/
def masked : Setup where
  document :=
    { pages := [{ id := "first" }, { id := "second", blocks :=
        [{ id := "secret", kind := .textInput, validations := [.required] }, { id := "pick", kind := .dropdown }] }]
      rules := [⟨"first", [⟨.hide, .always, { target := some ⟨.block, "secret"⟩ }⟩]⟩] }
  window := 0

open scoped Grammars in
/-- On the second page an answer to the hidden text is only recorded, and one to the dropdown goes on, although there
are two questions on the page. From there the session runs over the page as over one without the text. -/
theorem masked_text_is_inert : ∃ log r r', Reaches masked (start masked ∅ ∅) log r ∧ r.session.phase = .active 1 ∧
    r.session.hidden = ["secret"] ∧ Reaches masked r [] r' ∧ Reaches (masked.without 1 r.session.hidden) r [] r' ∧
    (∃ n r₁, r'.calls[n]? = some (.record "secret" (.text "a")) ∧ r'.move? masked (.advance n) = some r₁ ∧
      r₁.calls[n]? = some (.done none)) ∧
    (∃ n r₁, r'.calls[n]? = some (.record "pick" (.text "b")) ∧ r'.move? masked (.advance n) = some r₁ ∧
      r₁.calls[n]? = some (Call.next ∅).stage) ∧
    ∀ n t r'', Completes masked n r' t r'' ↔ Completes (masked.without 1 r.session.hidden) n r' t r'' := by
  have run : ((start masked ∅ ∅).follow? masked [.call (.next ∅), .advance 0, .advance 0]).map
      (fun reached => (reached.2.session.phase, reached.2.session.hidden)) = some (.active 1, ["secret"]) := by
    decide +kernel
  obtain ⟨⟨log, r⟩, hr, hplace⟩ := Option.map_eq_some_iff.mp run
  obtain ⟨hi, hhidden⟩ := Prod.mk.inj hplace
  have h := Reaches.of_follow? _ hr
  have h' : Reaches masked r [] { r with
      calls := r.calls ++ [.record "secret" (.text "a")] ++ [.record "pick" (.text "b")] } :=
    Reaches.of_follow? [.call (.set "secret" (.text "a")), .call (.set "pick" (.text "b"))] rfl
  have hends : EndsPage "pick" (((masked.without 1 ["secret"]).document.pages[1]?.map Page.blocks).getD []) :=
    ⟨⟨_, List.mem_cons_self, rfl⟩, List.pairwise_singleton _ _, ⟨_, List.mem_cons_self, Or.inr (Or.inl rfl)⟩⟩
  obtain ⟨hsame, hwhile⟩ := hidden_blocks_are_inert h hi
  obtain ⟨-, hcompletes, hpage⟩ := hwhile [] _ rfl h'
  obtain ⟨-, -, -, hrecord⟩ := hpage 1 hi
  have hsecret : (r.calls ++ [Stage.record "secret" (.text "a")] ++ [.record "pick" (.text "b")])[r.calls.length]? =
      some (.record "secret" (.text "a")) := by
    rw [List.append_assoc, List.getElem?_append_right (Nat.le_refl _), Nat.sub_self]
    rfl
  obtain ⟨r₁, hmove, -, -, hdone⟩ := hrecord _ _ _ hsecret
  obtain ⟨r₂, hmove', -, hgoes, -⟩ := hrecord _ _ _ List.getElem?_concat_length
  refine ⟨log, r, _, h, hi, hhidden, h', (hsame [] _ rfl).mp h', ⟨_, r₁, hsecret, hmove, hdone ?_⟩,
    ⟨_, r₂, List.getElem?_concat_length, hmove', hgoes.mpr ?_⟩, hcompletes⟩
  · rw [hhidden]
    exact List.mem_cons_self
  · rw [hhidden]
    exact hends

end Run

end Questionnaire
