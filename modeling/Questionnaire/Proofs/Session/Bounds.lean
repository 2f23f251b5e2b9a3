import Questionnaire.Grammars.Builtin
import Questionnaire.Proofs.Session.Answering
import Questionnaire.Proofs.Session.Story

/-!
# Pages within reach

A session keeps the place of a page more than once: in its phase, beside it, with every call that is on its way, and
for the pages to go back to. However the sections of calls are ordered, no such place is past the last page. So a call
that arrives finds its page, going back never misses one, and a session that has not ended always shows something,
unless the document is empty.
-/

namespace Questionnaire

/-- Every page of a path but the last one has been left, so that it is there. -/
theorem Derivation.page_of_mem [Grammars] {d : Document} {path : List Snapshot} {a b : Snapshot}
    (h : Derivation d (path ++ [b])) (ha : a ∈ path) : ∃ page, d.pages[a.index]? = some page := by
  obtain ⟨before, after, rfl⟩ := List.append_of_mem ha
  have hlinks := h.links
  rw [List.append_assoc, List.cons_append] at hlinks
  have hfrom := (List.isChain_split.mp hlinks).2
  have leads : ∃ next, Leads d a next := by
    cases after with
    | nil => exact ⟨b, List.isChain_pair.mp hfrom⟩
    | cons next after => exact ⟨next, (List.isChain_cons_cons.mp hfrom).1⟩
  obtain ⟨next, page, answers, hp, -⟩ := leads
  exact ⟨page, hp⟩

namespace Session
variable {d : Document} {s : Session}

/-- Only a session that has ended, or one that is past the last page, has nothing to show. -/
theorem view?_eq_none_iff : s.view? d = none ↔ s.phase.isTerminal = true ∨ d.pageCount ≤ s.index := by
  unfold view?
  split
  · rename_i hterm
    exact iff_of_true rfl (Or.inl hterm)
  · rename_i hgoing
    rw [Option.map_eq_none_iff, List.getElem?_eq_none_iff]
    exact ⟨Or.inr, fun h => h.resolve_left hgoing⟩

end Session

namespace Run

section
variable [Grammars] {setup : Setup} {store : Entries Answers} {given : Answers} {log : List Passage} {r : Run}
  {stage : Stage}
  {q : PageRef} {snapshot : Snapshot}

/-- A call that is on its way to a page is on its way to one of the document. -/
theorem Reaches.page_of_destination? (h : Reaches setup (start setup store given) log r) (hs : stage ∈ r.calls)
    (hd : stage.destination? = some (.page q)) :
    ∃ page, setup.document.pages[q.index]? = some page ∧ q = page.ref q.index := by
  induction h using Reaches.by_passages generalizing stage with
  | start => cases hs
  | aside _ _ beside ih => exact ih (beside.mem_of_destination? hs (by rw [hd]; rfl)) hd
  | passage _ _ advances ih =>
    rcases advances.mem_cases hs with hs | rfl
    · exact ih hs hd
    · rcases advances.effect.place with ⟨-, hsame⟩ | ⟨i, submitted, -, -, -, -, htoward⟩ | ⟨_, _, _, -, -, -, -, hnone⟩ |
        ⟨_, -, -, hnone⟩
      · exact ih advances.mem (hsame _ hd)
      · rw [hd] at htoward
        exact destination_ref (Option.some.inj htoward).symm
      · rw [hd] at hnone
        cases hnone
      · rw [hd] at hnone
        cases hnone

/-- The page of the session is there, unless the document is empty. -/
theorem Reaches.index_lt (h : Reaches setup (start setup store given) log r) :
    r.session.index < setup.document.pageCount ∨ setup.document.pages = [] ∧ r.session.index = 0 := by
  have inside : ∀ {i : Nat} {page : Page}, setup.document.pages[i]? = some page → i < setup.document.pageCount :=
    fun hp => (List.getElem?_eq_some_iff.mp hp).1
  induction h using Reaches.by_passages with
  | start =>
    rcases List.eq_nil_or_concat setup.document.pages with hnil | ⟨before, page, hpages⟩
    · exact Or.inr ⟨hnil, rfl⟩
    · refine Or.inl (List.length_pos_iff.mpr ?_)
      rw [hpages, List.concat_eq_append]
      exact List.concat_ne_nil _ _
  | aside _ _ beside ih =>
    rw [beside.session]
    exact ih
  | passage h _ advances ih =>
    rcases advances.effect.place with ⟨same, -⟩ | ⟨i, submitted, -, -, -, hs, -⟩ | ⟨i, snapshot, rest, hi, -, hh, hs, -⟩ |
      ⟨destination, rfl, hs, -⟩
    · rw [same.index]
      exact ih
    · rw [hs]
      exact ih
    · obtain ⟨page, hp⟩ := h.derived.page_of_snapshot hi hh
      rw [hs]
      exact Or.inl (inside hp)
    · rw [hs]
      cases destination with
      | page q =>
        obtain ⟨page, hp, -⟩ := h.page_of_destination? advances.mem rfl
        exact Or.inl (inside hp)
      | elsewhere | finish => exact ih

/-- The pages to go back to are there. -/
theorem Reaches.page_of_history (h : Reaches setup (start setup store given) log r)
    (ha : r.session.phase.isActive = true) (hs : snapshot ∈ r.session.history) :
    ∃ page, setup.document.pages[snapshot.index]? = some page := by
  obtain ⟨i, hi⟩ := Phase.isActive_iff.mp ha
  exact (h.derived.shown i hi).page_of_mem (List.mem_reverse.mpr hs)

/-- Going back finds its page. -/
theorem Reaches.back_of_history {rest : List Snapshot} (h : Reaches setup (start setup store given) log r)
    (ha : r.session.phase.isActive = true) (hh : r.session.history = snapshot :: rest) :
    ∃ page, setup.document.pages[snapshot.index]? = some page ∧
      r.session.back setup.document = (r.session.restored snapshot rest, .moved (page.ref snapshot.index)) := by
  obtain ⟨i, hi⟩ := Phase.isActive_iff.mp ha
  obtain ⟨page, hp⟩ := h.page_of_history ha (hh ▸ List.mem_cons_self)
  refine ⟨page, hp, ?_⟩
  rw [Session.back_of_snapshot hi hh, hp, Option.map_some, Option.getD_some]

/-- Going back is ignored only where it changes nothing. -/
theorem Reaches.eq_of_back_ignored {s : Session} (h : Reaches setup (start setup store given) log r)
    (hback : r.session.back setup.document = (s, .ignored)) : s = r.session := by
  have of_same : r.session.back setup.document = (r.session, .ignored) → s = r.session := by
    intro hsame
    rw [hsame] at hback
    exact (Prod.mk.inj hback).1.symm
  cases ha : r.session.phase.isActive with
  | false => exact of_same (Session.back_of_not_active ha)
  | true =>
    cases hh : r.session.history with
    | nil => exact of_same (Session.back_of_empty hh)
    | cons snapshot rest =>
      obtain ⟨page, -, hmoved⟩ := h.back_of_history ha hh
      rw [hmoved] at hback
      cases (Prod.mk.inj hback).2

/-- In every run, however the sections of its calls are ordered: the index of the session is that of a page, or it is 0
and the document is empty; a page that is active or being left is at this index; and while a page is active, there is a
page for everything to go back to. So whatever page a call is on its way to, it is there; going back finds its page, and
is ignored only where it changes nothing; and there is nothing to be shown exactly when the session has ended or the
document is empty. -/
theorem index_stays_within (h : Reaches setup (start setup store given) log r) :
    (r.session.index < setup.document.pageCount ∨ setup.document.pages = [] ∧ r.session.index = 0) ∧
    (∀ i, r.session.phase = .active i ∨ r.session.phase = .transitioning i → i = r.session.index) ∧
    (r.session.phase.isActive = true →
      ∀ snapshot ∈ r.session.history, snapshot.index < setup.document.pageCount) ∧
    (∀ stage ∈ r.calls, ∀ q, stage.destination? = some (.page q) →
      q.index < setup.document.pageCount ∧ ∃ page, setup.document.pages[q.index]? = some page ∧ q = page.ref q.index) ∧
    (r.session.phase.isActive = true → ∀ snapshot rest, r.session.history = snapshot :: rest →
      ∃ page, setup.document.pages[snapshot.index]? = some page ∧
        r.session.back setup.document = (r.session.restored snapshot rest, .moved (page.ref snapshot.index))) ∧
    (∀ s, r.session.back setup.document = (s, .ignored) → s = r.session) ∧
    (r.session.view? setup.document = none ↔ r.session.phase.isTerminal = true ∨ setup.document.pages = []) := by
  refine ⟨h.index_lt, fun i hi => (h.index i hi).symm, fun ha snapshot hs => ?_, fun stage hs q hq => ?_,
    fun ha snapshot rest => h.back_of_history ha, fun s => h.eq_of_back_ignored, ?_⟩
  · obtain ⟨page, hp⟩ := h.page_of_history ha hs
    exact (List.getElem?_eq_some_iff.mp hp).1
  · obtain ⟨page, hp, hq⟩ := h.page_of_destination? hs hq
    exact ⟨(List.getElem?_eq_some_iff.mp hp).1, page, hp, hq⟩
  · have past : setup.document.pageCount ≤ r.session.index ↔ setup.document.pages = [] := by
      rcases h.index_lt with hlt | ⟨hnil, hzero⟩
      · refine iff_of_false (Nat.not_le.mpr hlt) fun hnil => ?_
        rw [Document.pageCount, hnil] at hlt
        exact Nat.not_lt_zero _ hlt
      · rw [Document.pageCount, hnil]
        exact iff_of_true (Nat.zero_le _) rfl
    rw [Session.view?_eq_none_iff, past]

end

open scoped Grammars in
/-- Two answers on the first page, of which the second one goes on to the third: that page is there and can be shown,
and so is the second page, which the session would go back to. -/
theorem index_stays_within_of_two : ∃ log r s, Reaches clicked (start clicked ∅ ∅) log r ∧
    r.session.phase = .active 2 ∧ r.session.index = 2 ∧
    (∀ snapshot ∈ r.session.history, snapshot.index < clicked.document.pageCount) ∧
    r.session.back clicked.document = (s, .moved ⟨"second", 1, ""⟩) ∧ r.session.view? clicked.document ≠ none := by
  have run : ((start clicked ∅ ∅).follow? clicked [.call (.set "pick" (.text "a")), .call (.set "pick" (.text "b")),
      .advance 0, .advance 1, .advance 0, .advance 0, .advance 1, .advance 1]).map (fun reached =>
        (reached.2.session.phase, reached.2.session.history.map Snapshot.index)) = some (.active 2, [1, 0]) := by
    decide +kernel
  obtain ⟨⟨log, r⟩, hr, hplace⟩ := Option.map_eq_some_iff.mp run
  obtain ⟨hp, hpages⟩ := Prod.mk.inj hplace
  have h := Reaches.of_follow? _ hr
  obtain ⟨-, hindex, hhistory, -, hback, -, hview⟩ := index_stays_within h
  have active : r.session.phase.isActive = true := by
    rw [hp]
    rfl
  cases hh : r.session.history with
  | nil =>
    rw [hh] at hpages
    cases hpages
  | cons snapshot rest =>
    have hsecond : snapshot.index = 1 := by
      rw [hh] at hpages
      exact (List.cons.inj hpages).1
    obtain ⟨page, hpage, hmoved⟩ := hback active snapshot rest hh
    rw [hsecond] at hpage hmoved
    obtain rfl := Option.some.inj hpage
    refine ⟨log, r, _, h, hp, (hindex 2 (Or.inl hp)).symm, hh ▸ hhistory active, hmoved, fun hnone => ?_⟩
    rcases hview.mp hnone with hterm | hempty
    · rw [hp] at hterm
      cases hterm
    · cases hempty

end Run

end Questionnaire
