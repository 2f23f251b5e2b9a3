import Mathlib.Data.List.Chain
import Questionnaire.Grammars.Builtin
import Questionnaire.Proofs.Session.Flight

/-!
# The history as a derivation

The pages to go back to, followed by the page that is shown, derive the variables and the hidden blocks from those of
the document: each step is a legal departure from one page to the next. Going back takes the last step away, so that
only the pages on the present path have had their rules applied, each once.
-/

namespace Questionnaire

/-- One legal departure: some answers pass on what could be seen of the first page, the page does not lead elsewhere,
and its rule on these answers gives the variables, the hidden blocks and the place of the second. -/
def Leads [Grammars] (d : Document) (a b : Snapshot) : Prop :=
  ∃ page answers, d.pages[a.index]? = some page ∧ validate (page.visible a.hidden) answers = none ∧
    page.redirect? = none ∧ b.vars = (d.outcome (some page) answers a.vars).vars ∧
    b.hidden = (d.outcome (some page) answers a.vars).hidden ∧
    b.index = Session.nextIndex d a.index (d.outcome (some page) answers a.vars)

/-- A path of departures from the first page with the variables of the document and nothing hidden. -/
structure Derivation [Grammars] (d : Document) (path : List Snapshot) : Prop where
  begins : path.head? = some ⟨0, d.vars, []⟩
  links : path.IsChain (Leads d)

/-- The variables and hidden blocks that come of the rules of pages, each applied once to the answers beside it. -/
def Document.replay (d : Document) (steps : List (Nat × Answers)) : Variables × List String :=
  steps.foldl (fun now step =>
    ((d.outcome d.pages[step.1]? step.2 now.1).vars, (d.outcome d.pages[step.1]? step.2 now.1).hidden)) (d.vars, [])

/-- The pages to go back to, oldest first, and then a page as it now is. -/
def Session.pathTo (i : Nat) (s : Session) : List Snapshot := s.history.reverse ++ [⟨i, s.vars, s.hidden⟩]

namespace Derivation
variable [Grammars] {d : Document} {path : List Snapshot} {a b : Snapshot}

theorem start (d : Document) : Derivation d [⟨0, d.vars, []⟩] := ⟨rfl, List.isChain_singleton _⟩

theorem concat (h : Derivation d (path ++ [a])) (hab : Leads d a b) : Derivation d (path ++ [a] ++ [b]) := by
  refine ⟨?_, ?_⟩
  · rw [List.head?_append, h.begins]
    rfl
  · rw [List.append_assoc]
    exact List.isChain_split.mpr ⟨h.links, List.isChain_pair.mpr hab⟩

theorem of_concat (h : Derivation d (path ++ [a] ++ [b])) : Derivation d (path ++ [a]) ∧ Leads d a b := by
  have hl := h.links
  rw [List.append_assoc] at hl
  obtain ⟨hinit, hlast⟩ := List.isChain_split.mp hl
  refine ⟨⟨?_, hinit⟩, List.isChain_pair.mp hlast⟩
  have hb := h.begins
  rw [List.head?_append_of_ne_nil _ (List.concat_ne_nil a path)] at hb
  exact hb

/-- What holds at the end of a path comes of the rules of the pages before, each applied once. -/
theorem replay (h : Derivation d (path ++ [a])) :
    ∃ given : List Answers, given.length = path.length ∧
      (a.vars, a.hidden) = d.replay ((path.map Snapshot.index).zip given) := by
  induction path using List.reverseRecOn generalizing a with
  | nil =>
    have := Option.some.inj h.begins
    exact ⟨[], rfl, by rw [this]; rfl⟩
  | append_singleton path b ih =>
    obtain ⟨hpath, page, answers, hp, -, -, hv, hh, -⟩ := h.of_concat
    obtain ⟨given, hlen, hgiven⟩ := ih hpath
    refine ⟨given ++ [answers], by rw [List.length_append, List.length_append, hlen]; rfl, ?_⟩
    rw [List.map_append, List.zip_append (by rw [List.length_map, hlen])]
    simp only [Document.replay, List.foldl_append] at hgiven ⊢
    rw [← hgiven]
    simp only [List.map_cons, List.map_nil, List.zip_cons_cons, List.zip_nil_left, List.foldl_cons, List.foldl_nil,
      hp, hv, hh]

end Derivation

namespace Session
variable {d : Document} {s : Session} {i : Nat} {submitted : Answers}

/-- Only from a page that there is, and that leads nowhere else, does a session come to another page. -/
theorem destination_page {o : Outcome} {q : PageRef} (h : destination d i o = .page q) :
    (d.pages[i]?).bind Page.redirect? = none ∧ q.index = nextIndex d i o ∧ q.index < d.pages.length := by
  unfold destination at h
  split at h
  · cases h
  · rename_i hr
    simp only at h
    split at h
    · rename_i p hp
      obtain rfl := Destination.page.inj h
      exact ⟨hr, rfl, (List.getElem?_eq_some_iff.mp hp).1⟩
    · cases h

theorem pages_of_toward {q : PageRef} (h : s.toward d i submitted = .page q) : ∃ page, d.pages[i]? = some page := by
  cases hp : d.pages[i]? with
  | some page => exact ⟨page, rfl⟩
  | none =>
    -- Where there is no page there is no rule to jump back, and what follows is past the end too.
    obtain ⟨-, hq, hlt⟩ := destination_page h
    have hle := List.getElem?_eq_none_iff.mp hp
    simp only [hp, Document.outcome, Option.bind_none, nextIndex, Option.getD_none] at hq
    omega

/-- Leaving a page for another one is a legal departure. -/
theorem leads_of_toward [Grammars] {q : PageRef} (hv : validate (s.visible d i) (s.answers.extend submitted) = none)
    (h : s.toward d i submitted = .page q) :
    Leads d ⟨i, s.vars, s.hidden⟩ ⟨q.index, (s.left d i submitted).vars, (s.left d i submitted).hidden⟩ := by
  obtain ⟨page, hp⟩ := pages_of_toward h
  obtain ⟨hr, hq, -⟩ := destination_page h
  simp only [visible, hp, Option.map_some, Option.getD_some] at hv
  simp only [left, hp] at hq ⊢
  rw [hp, Option.bind_some] at hr
  exact ⟨page, s.answers.extend submitted, hp, hv, hr, rfl, rfl, hq⟩

theorem pathTo_left (q : Nat) : (s.left d i submitted).pathTo q =
    s.pathTo i ++ [⟨q, (s.left d i submitted).vars, (s.left d i submitted).hidden⟩] := by
  simp only [pathTo, left, List.reverse_cons]

theorem SamePlace.pathTo {s' : Session} (h : s.SamePlace s') : s'.pathTo i = s.pathTo i := by
  simp only [Session.pathTo, h.vars, h.hidden, h.history]

theorem pathTo_arrive (destination : Destination) : (s.arrive destination).pathTo i = s.pathTo i := by
  cases destination <;> rfl

theorem pathTo_of_snapshot {snapshot : Snapshot} {rest : List Snapshot} (h : s.history = snapshot :: rest) :
    s.pathTo i = (s.restored snapshot rest).pathTo snapshot.index ++ [⟨i, s.vars, s.hidden⟩] := by
  simp only [pathTo, restored, h, List.reverse_cons]

end Session

namespace Run

/-- What the history derives: the page that is shown, and the page that a call is on its way to. -/
structure Derived [Grammars] (d : Document) (r : Run) : Prop where
  shown : ∀ i, r.session.phase = .active i → Derivation d (r.session.pathTo i)
  coming : ∀ stage ∈ r.calls, ∀ q, stage.destination? = some (.page q) → Derivation d (r.session.pathTo q.index)

namespace Derived
variable [Grammars] {d : Document} {r r' : Run} {n : Nat} {stage stage' : Stage}

theorem aside (h : Derived d r) (beside : Aside r r') : Derived d r' := by
  have hs := beside.session
  refine ⟨fun i hi => hs ▸ h.shown i (hs ▸ hi), fun other ho q hq => ?_⟩
  rw [hs]
  exact h.coming other (beside.mem_of_destination? ho (by rw [hq]; rfl)) q hq

theorem coming_of_active (regime : Regime r) (ha : r.session.phase.isActive = true)
    (advances : Advances d n stage stage' r r')
    (h : ∀ q, stage'.destination? = some (.page q) → Derivation d (r'.session.pathTo q.index)) :
    ∀ other ∈ r'.calls, ∀ q, other.destination? = some (.page q) → Derivation d (r'.session.pathTo q.index) := by
  intro other ho q hq
  obtain rfl := regime.eq_of_destination? ha advances ho (by rw [hq]; rfl)
  exact h q hq

/-- A departure adds a link to the path, and going back takes one away. -/
theorem passage (regime : Regime r) (h : Derived d r) (advances : Advances d n stage stage' r r') : Derived d r' := by
  rcases advances.effect.place with ⟨same, hd⟩ | ⟨i, submitted, hi, -, hv, hs', hd⟩ |
    ⟨i, snapshot, rest, hi, -, hh, hs', hd⟩ | ⟨destination, rfl, hs', hd⟩
  · refine ⟨fun i hi => ?_, fun other ho q hq => ?_⟩
    · rw [same.pathTo]
      exact h.shown i (same.phase ▸ hi)
    · rw [same.pathTo]
      rcases advances.mem_cases ho with ho | rfl
      · exact h.coming other ho q hq
      · exact h.coming stage advances.mem q (hd _ hq)
  · -- A page is left: nothing is shown, and the call is coming to the end of one more link.
    refine ⟨fun j hj => ?_, coming_of_active regime (by rw [hi]; rfl) advances fun q hq => ?_⟩
    · rw [hs'] at hj
      cases hj
    · rw [hd] at hq
      rw [hs', Session.pathTo_left]
      exact (h.shown i hi).concat (Session.leads_of_toward hv (Option.some.inj hq))
  · refine ⟨fun j hj => ?_, coming_of_active regime (by rw [hi]; rfl) advances fun q hq => ?_⟩
    · rw [hs'] at hj ⊢
      cases hj
      have := h.shown i hi
      rw [Session.pathTo_of_snapshot hh] at this
      exact this.of_concat.1
    · rw [hd] at hq
      cases hq
  · -- The page that the call was coming to is shown.
    refine ⟨fun j hj => ?_, fun other ho q hq => ?_⟩
    · rw [hs'] at hj ⊢
      cases destination with
      | page p =>
        cases hj
        exact h.coming _ advances.mem p rfl
      | elsewhere | finish => cases hj
    · rw [hs', Session.pathTo_arrive]
      rcases advances.mem_cases ho with ho | rfl
      · exact h.coming other ho q hq
      · rw [hd] at hq
        cases hq

theorem page_of_snapshot {i : Nat} {snapshot : Snapshot} {rest : List Snapshot} (h : Derived d r)
    (hi : r.session.phase = .active i) (hh : r.session.history = snapshot :: rest) :
    ∃ page, d.pages[snapshot.index]? = some page := by
  have := h.shown i hi
  rw [Session.pathTo_of_snapshot hh] at this
  obtain ⟨page, -, hp, -⟩ := this.of_concat.2
  exact ⟨page, hp⟩

theorem start (setup : Setup) (store : Entries Answers) (given : Answers) :
    Derived setup.document (Run.start setup store given) := by
  refine ⟨fun i hi => ?_, fun stage hs => by cases hs⟩
  cases hi
  exact Derivation.start setup.document

end Derived

section
variable [Grammars] {setup : Setup} {store : Entries Answers} {given : Answers} {log : List Passage} {r : Run}

theorem Reaches.derived (h : Reaches setup (start setup store given) log r) : Derived setup.document r := by
  induction h using Reaches.by_passages with
  | start => exact Derived.start setup store given
  | aside _ _ beside ih => exact ih.aside beside
  | passage h _ advances ih => exact ih.passage (h.regime (Regime.start setup store given)) advances

/-- The page that is shown, or being left, is the one of the phase. -/
theorem Reaches.index (h : Reaches setup (start setup store given) log r) (i : Nat)
    (hi : r.session.phase = .active i ∨ r.session.phase = .transitioning i) : r.session.index = i := by
  refine h.session_of_effect (P := fun s => ∀ i, s.phase = .active i ∨ s.phase = .transitioning i → s.index = i)
    ?_ ?_ i hi
  · rintro i (hi | hi) <;> cases hi
    rfl
  · intro s stage s' stage' effect keep i hi
    rcases effect.place with ⟨same, -⟩ | ⟨j, submitted, hj, -, -, rfl, -⟩ | ⟨j, snapshot, rest, -, -, -, rfl, -⟩ |
      ⟨destination, -, rfl, -⟩
    · rw [same.index]
      exact keep i (same.phase ▸ hi)
    · rcases hi with hi | hi <;> cases hi
      exact keep _ (Or.inl hj)
    · rcases hi with hi | hi <;> cases hi
      rfl
    · cases destination with
      | page p =>
        rcases hi with hi | hi <;> cases hi
        rfl
      | elsewhere | finish => rcases hi with hi | hi <;> cases hi

/-- In every run, while a page is active: the pages to go back to and then the page that is shown are a path of legal
departures from the first page, with the variables of the document and nothing hidden, to the present variables and
hidden blocks. These are therefore what the rules of the pages on the path give, each applied once. -/
theorem history_derives (h : Reaches setup (start setup store given) log r)
    (ha : r.session.phase.isActive = true) :
    r.session.phase = .active r.session.index ∧
    Derivation setup.document (r.session.pathTo r.session.index) ∧
    ∃ given : List Answers, given.length = r.session.history.length ∧
      (r.session.vars, r.session.hidden) =
        setup.document.replay ((r.session.history.reverse.map Snapshot.index).zip given) := by
  obtain ⟨i, hi⟩ := Phase.isActive_iff.mp ha
  obtain rfl := h.index i (Or.inl hi)
  have derivation := h.derived.shown _ hi
  obtain ⟨given, hlen, hgiven⟩ := derivation.replay
  exact ⟨hi, derivation, given, hlen.trans List.length_reverse, hgiven⟩

end

/-- Two pages, with a point for leaving the first. -/
def scored : Setup where
  document :=
    { pages := [{ id := "first" }, { id := "second" }]
      rules := [⟨"first", [⟨.add, .always,
        { target := some ⟨.variable, "score"⟩, value := some (.constant (.int 1)) }⟩]⟩] }
  window := 0

open scoped Grammars in
/-- On to the second page, back and on again: the point is counted once. -/
theorem history_derives_of_return : ∃ log r, Reaches scored (start scored ∅ ∅) log r ∧
    r.session.phase = .active 1 ∧
    ∃ answers, (r.session.vars, r.session.hidden) = scored.document.replay [(0, answers)] := by
  have run : ((start scored ∅ ∅).follow? scored [.call (.next ∅), .advance 0, .advance 0, .call .previous, .advance 1,
      .call (.next ∅), .advance 2, .advance 2]).map (fun reached =>
        (reached.2.session.phase, reached.2.session.history.map Snapshot.index)) = some (.active 1, [0]) := by
    decide +kernel
  obtain ⟨⟨log, r⟩, hr, hplace⟩ := Option.map_eq_some_iff.mp run
  obtain ⟨hp, hindex⟩ := Prod.mk.inj hplace
  have h := Reaches.of_follow? _ hr
  obtain ⟨-, -, given, hlen, hgiven⟩ := history_derives h (by rw [hp]; rfl)
  rw [← List.length_map Snapshot.index, hindex] at hlen
  obtain ⟨answers, rfl⟩ := List.length_eq_one_iff.mp hlen
  rw [List.map_reverse, hindex] at hgiven
  exact ⟨log, r, h, hp, answers, hgiven⟩

end Run

end Questionnaire
