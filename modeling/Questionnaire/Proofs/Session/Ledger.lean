import Questionnaire.Grammars.Builtin
import Questionnaire.Proofs.Session.Resuming

/-!
# The answers of a session as a ledger

Every call that is not refused or ignored enters what it brings in the ledger of its session: a request to go on the
answers that come with it, passed or not, and a recorded answer that one. Nothing else touches the answers. So they are
those that the session began with, extended by the ledger in the order of the deciding sections, and the observer is told
these at the end.
-/

namespace Questionnaire

/-- What a call enters in the ledger of its session. -/
def Call.entry? : Call → Option Answers
  | next submitted => some submitted
  | set id v => some ((∅ : Answers).insert id v)
  | previous => none

theorem Entries.get?_foldl_extend {α : Type} (entries : List (Entries α)) (m : Entries α) (name : String) :
    (entries.foldl Entries.extend m).get? name = (m :: entries).reverse.findSome? (·.get? name) := by
  induction entries using List.reverseRecOn with
  | nil =>
    rw [List.foldl_nil, List.reverse_singleton, List.findSome?_singleton]
  | append_singleton entries e ih =>
    rw [List.foldl_append, List.foldl_cons, List.foldl_nil, get?_extend, ih, ← List.cons_append, List.reverse_append,
      List.reverse_singleton, List.singleton_append, List.findSome?_cons]
    cases e.get? name <;> rfl

namespace Run

/-- What the calls of a log have entered, in the order of their deciding sections. -/
def ledger [Grammars] (d : Document) (log : List Passage) : List Answers :=
  (log.filterMap (Passage.call? d)).filterMap Call.entry?

section
variable [Grammars] {d : Document} {s s' : Session} {stage stage' : Stage} {n : Nat} {log log' : List Passage}

theorem ledger_append (d : Document) (log log' : List Passage) :
    ledger d (log ++ log') = ledger d log ++ ledger d log' := by
  rw [ledger, List.filterMap_append, List.filterMap_append, ledger, ledger]

theorem ledger_of_some {p : Passage} {c : Call} (h : p.call? d = some c) : ledger d [p] = c.entry?.toList := by
  rw [ledger, List.filterMap_cons_some h, List.filterMap_nil, List.filterMap_cons, List.filterMap_nil]
  cases c.entry? <;> rfl

theorem ledger_of_none {p : Passage} (h : p.call? d = none) : ledger d [p] = [] := by
  rw [ledger, List.filterMap_cons_none h, List.filterMap_nil, List.filterMap_nil]

theorem ledger_of_not_active {p : Passage} (hp : p.session.phase.isActive = false) : ledger d [p] = [] := by
  refine ledger_of_none (Option.eq_none_iff_forall_ne_some.mpr fun c hc => ?_)
  rw [(Passage.of_call? hc).2] at hp
  cases hp

/-- Going back enters nothing, whether there is a page to go back to or not. -/
theorem ledger_back (d : Document) (n : Nat) (s : Session) : ledger d [⟨n, .back, s⟩] = [] := by
  cases hc : (⟨n, .back, s⟩ : Passage).call? d with
  | none => exact ledger_of_none hc
  | some c =>
    obtain rfl : c = .previous := by
      have hstage : Stage.back = c.stage := (Passage.of_call? hc).1
      cases c with
      | previous => rfl
      | next | set => cases hstage
    rw [ledger_of_some hc]
    rfl

/-- A section changes the answers by what it enters in the ledger. -/
theorem answers_of_effect (h : Effect d s stage s' stage') (n : Nat) :
    s'.answers = (ledger d [⟨n, stage, s⟩]).foldl Entries.extend s.answers := by
  cases h with
  | refused hp =>
    rw [ledger_of_not_active hp]
    rfl
  | @recorded i id v hi =>
    have hc : (⟨n, .record id v, s⟩ : Passage).call? d = some (.set id v) := by
      simp only [Passage.call?, Session.record_of_active hi, Option.map_some]
    rw [ledger_of_some hc]
    rfl
  | @rejected i submitted complaints hi hv =>
    have hc : (⟨n, .depart submitted, s⟩ : Passage).call? d = some (.next submitted) := by
      simp only [Passage.call?, Session.depart_of_invalid hi hv]
    rw [ledger_of_some hc]
    rfl
  | @departed i submitted stage' hi hv =>
    have hc : (⟨n, .depart submitted, s⟩ : Passage).call? d = some (.next submitted) := by
      simp only [Passage.call?, Session.depart_of_valid hi hv]
    rw [ledger_of_some hc]
    rfl
  | stayed | returned =>
    rw [ledger_back]
    rfl
  | @arrived destination => cases destination <;> rfl
  | noted | settled | awaited | told | cleared => rfl

end

section
variable [Grammars] {setup : Setup} {store : Entries Answers} {given : Answers} {log : List Passage} {r₀ r : Run}

theorem Reaches.answers_eq (h : Reaches setup r₀ log r) :
    r.session.answers = (ledger setup.document log).foldl Entries.extend r₀.session.answers := by
  induction h using Reaches.by_passages with
  | start => rfl
  | aside _ _ beside ih => rw [beside.session, ih]
  | @passage log r r' n stage stage' _ _ advances ih =>
    rw [ledger_append, List.foldl_append, ← ih]
    exact answers_of_effect advances.effect n

/-- In every run, however the sections of its calls are ordered: the answers of the session are the cached ones,
overridden by those given at the start and then extended by the ledger, so that each block has the answer that was
entered last for it. Whatever goes on without an entry leaves the answers as they are. The observer is told exactly
these answers of the end, and they stay so. -/
theorem answers_eq_ledger (h : Reaches setup (start setup store given) log r) :
    let cached := ({ store := store } : Cache).load setup.conduct setup.document.cacheKey
    r.session.answers = (given :: ledger setup.document log).foldl Entries.extend cached ∧
    (∀ id, r.session.answers.get? id =
      (cached :: given :: ledger setup.document log).reverse.findSome? (·.get? id)) ∧
    (∀ later r', Reaches setup r later r' → ledger setup.document later = [] →
      r'.session.answers = r.session.answers) ∧
    ∀ answers redirect, (answers, redirect) ∈ r.reports → answers = r.session.answers ∧
      ∀ later r', Reaches setup r later r' → r'.session.answers = answers := by
  intro cached
  have hanswers : r.session.answers = (given :: ledger setup.document log).foldl Entries.extend cached := h.answers_eq
  refine ⟨hanswers, fun id => ?_, fun later r' h' hnone => ?_, fun answers redirect hreport => ?_⟩
  · rw [hanswers, Entries.get?_foldl_extend]
  · rw [h'.answers_eq, hnone]
    rfl
  · have regime := h.regime (Regime.start setup store given)
    rcases regime.reports with hnil | ⟨redirect', hp, hone⟩
    · rw [hnil] at hreport
      cases hreport
    · rw [hone] at hreport
      obtain ⟨rfl, rfl⟩ := Prod.mk.inj (List.mem_singleton.mp hreport)
      exact ⟨rfl, fun later r' h' => Session.answers_of_core (h'.core_of_isTerminal regime (isTerminal_of_ending? hp))⟩

end

open scoped Grammars in
/-- Answers that come with a request that is turned down, one that is recorded while another call is made, and a request
that passes: the observer is told all of them, and the later answer to a question in place of the one it had at first. -/
theorem answers_eq_ledger_of_rejected : ∃ log r answers,
    Reaches twoQuestions (start twoQuestions ∅ ((∅ : Answers).insert "extra" (.text "old"))) log r ∧
    (ledger twoQuestions.document log).length = 3 ∧ r.reports = [(answers, none)] ∧
    answers.get? "extra" = some (.text "x") ∧ answers.get? "needed" = some (.text "n") := by
  have h : Reaches twoQuestions (start twoQuestions ∅ ((∅ : Answers).insert "extra" (.text "old"))) _ _ :=
    Reaches.of_follow? [.call (.next ((∅ : Answers).insert "extra" (.text "x"))), .call (.set "needed" (.text "n")),
      .advance 0, .advance 1, .call (.next ∅), .call .previous, .advance 2, .advance 3, .advance 2, .advance 2,
      .advance 2] rfl
  obtain ⟨-, hlast, -, htold⟩ := answers_eq_ledger h
  refine ⟨_, _, _, h, rfl, rfl, ?_, ?_⟩
  · rw [(htold _ _ (List.mem_singleton_self _)).1, hlast]
    rfl
  · rw [(htold _ _ (List.mem_singleton_self _)).1, hlast]
    rfl

end Run

end Questionnaire
