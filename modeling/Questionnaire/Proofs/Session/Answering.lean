import Questionnaire.Grammars.Builtin
import Questionnaire.Proofs.Session.Derivation
import Questionnaire.Proofs.Session.SingleFlight

/-!
# Answers that move on

An answer that ends its page is recorded in one section and leaves the page in a later one, which does not look back:
it leaves whatever page is active by then. The log tells the pages that the session comes to between the two. The
answer leaves its own page just when the last of them, if there is any, is that page.
-/

namespace Questionnaire.Run

/-- The page that a passage brings the session to: by the arrival of a call, or by going back. -/
def Passage.landing? (d : Document) (p : Passage) : Option Nat :=
  match p.stage with
  | .arrive (.page q) => some q.index
  | .back =>
    match (p.session.back d).2 with
    | .moved q => some q.index
    | _ => none
  | _ => none

/-- The pages that the session comes to, one after the other. -/
def landings (d : Document) (log : List Passage) : List Nat := log.filterMap (Passage.landing? d)

/-! ### Landings -/

section
variable [Grammars] {d : Document} {s s' : Session} {n : Nat} {stage stage' : Stage}

omit [Grammars] in
theorem landings_append (d : Document) (log log' : List Passage) :
    landings d (log ++ log') = landings d log ++ landings d log' := List.filterMap_append

theorem index_of_effect (h : Effect d s stage s' stage')
    (hpage : ∀ i snapshot rest, s.phase = .active i → s.history = snapshot :: rest →
      ∃ page, d.pages[snapshot.index]? = some page) :
    s'.index = ((⟨n, stage, s⟩ : Passage).landing? d).getD s.index := by
  cases h with
  | refused ha hr =>
    cases stage with
    | back => simp only [Passage.landing?, Session.back_of_not_active ha, Option.getD_none]
    | record | depart => rfl
    | note | arrive | settle | await | tell | clear | done => cases hr
  | stayed _ hh => simp only [Passage.landing?, Session.back_of_empty hh, Option.getD_none]
  | returned hi hh =>
    obtain ⟨page, hp⟩ := hpage _ _ _ hi hh
    simp only [Passage.landing?, Session.back_of_snapshot hi hh, hp, Option.map_some, Option.getD_some]
    rfl
  | @arrived destination => cases destination <;> rfl
  | recorded | rejected | departed | noted | settled | awaited | told | cleared => rfl

/-- The section that records an answer ends its call, or the answer ends its page. -/
theorem effect_of_record {id : String} {v : Json} (h : Effect d s (.record id v) s' stage') :
    (∃ t, stage' = .done t) ∨ ∃ j, s.phase = .active j ∧ s.advancesOn d j id = true := by
  cases h with
  | refused => exact Or.inl ⟨_, rfl⟩
  | @recorded j _ _ hj =>
    cases ha : s.advancesOn d j id with
    | true => exact Or.inr ⟨j, hj, ha⟩
    | false => exact Or.inl ⟨none, rfl⟩

theorem not_active_of_leaves {p : Passage} {i : Nat} (h : Effect d p.session p.stage s' stage')
    (hl : p.Leaves d i) : s'.phase.isActive = false := by
  obtain ⟨hi, submitted, hs, hv⟩ := Passage.leaves_iff.mp hl
  rw [hs] at h
  rcases h.of_active rfl hi with ⟨-, -, hinvalid⟩ | ⟨_, -, -, rfl, -⟩
  · exact absurd hv (hinvalid submitted rfl)
  · rfl

theorem not_active_of_effect (h : Effect d s stage s' stage') (hl : (⟨n, stage, s⟩ : Passage).landing? d = none)
    (hp : s.phase.isActive = false) : s'.phase.isActive = false := by
  cases h with
  | refused | noted | settled | awaited | told | cleared => exact hp
  | recorded hi | rejected hi | departed hi | stayed hi | returned hi => simp [hi, Phase.isActive] at hp
  | @arrived destination =>
    cases destination with
    | page => cases hl
    | elsewhere | finish => rfl

end

section
variable [Grammars] {setup : Setup} {store : Entries Answers} {given : Answers} {r r' : Run} {log : List Passage}

/-- The page of the session is the one that it has come to last. -/
theorem Reaches.index_landings (h : Reaches setup (start setup store given) log r) :
    r.session.index = (landings setup.document log).getLast?.getD 0 := by
  induction h using Reaches.by_passages with
  | start => rfl
  | aside _ _ beside ih => rw [beside.session, ih]
  | @passage log r r' n stage stage' h _ advances ih =>
    rw [landings_append, index_of_effect advances.effect fun i snapshot rest => h.derived.page_of_snapshot, ih]
    cases hl : (⟨n, stage, r.session⟩ : Passage).landing? setup.document with
    | none => simp only [landings, List.filterMap_cons_none hl, List.filterMap_nil, List.append_nil, Option.getD_none]
    | some k =>
      simp only [landings, List.filterMap_cons_some hl, List.filterMap_nil, List.getLast?_concat, Option.getD_some]

theorem Reaches.not_active_of_no_landing (h : Reaches setup r log r') (hp : r.session.phase.isActive = false)
    (hl : landings setup.document log = []) : r'.session.phase.isActive = false := by
  induction h using Reaches.by_passages with
  | start => exact hp
  | aside _ _ beside ih =>
    rw [beside.session]
    exact ih hl
  | @passage log r r' n stage stage' _ _ advances ih =>
    rw [landings_append] at hl
    obtain ⟨hlog, hlast⟩ := List.append_eq_nil_iff.mp hl
    refine not_active_of_effect (n := n) advances.effect ?_ (ih hlog)
    exact List.filterMap_eq_nil_iff.mp hlast _ (List.mem_singleton_self _)

/-- A page that is active was come to since a page was left. -/
theorem Reaches.landing_of_leaves {r₀ : Run} {earlier later : List Passage} {q : Passage} {k : Nat}
    (h : Reaches setup r₀ (earlier ++ q :: later) r) (hq : q.Leaves setup.document k)
    (ha : r.session.phase.isActive = true) : landings setup.document later ≠ [] := by
  intro hnone
  obtain ⟨r₁, r₂, stage', -, hs, advances, -, hrest⟩ := h.split
  have := hrest.not_active_of_no_landing (not_active_of_leaves (hs ▸ advances.effect) hq) hnone
  rw [ha] at this
  cases this

/-- In every run, take a call that records an answer on a page and leaves a page later on, and what comes between the
two sections. The answer was recorded on an active page, for a block that could be seen there, and the page moves on
by itself. The page that the call leaves is this one just when the last page that the session came to in between, if
it came to any, is this one. Another call that left a page in between was followed by the arrival at a page in
between; one that left a page before was followed by an arrival before the answer was recorded. -/
theorem answer_leaves_iff {before between after : List Passage} {p q : Passage} {id : String} {v : Json} {i : Nat}
    (h : Reaches setup (start setup store given) (before ++ p :: (between ++ q :: after)) r)
    (hp : p.stage = .record id v) (hcall : q.call = p.call) (hq : q.Leaves setup.document i) :
    ∃ j, p.session.phase = .active j ∧
      (∃ block ∈ p.session.visible setup.document j, block.id = id) ∧
      shouldAutoAdvance (p.session.visible setup.document j) = true ∧
      (i = j ↔ ∀ k ∈ (landings setup.document between).getLast?, k = j) ∧
      (∀ earlier later q' k, between = earlier ++ q' :: later → q'.Leaves setup.document k →
        landings setup.document later ≠ []) ∧
      ∀ earlier later q' k, before = earlier ++ q' :: later → q'.Leaves setup.document k →
        landings setup.document later ≠ [] := by
  obtain ⟨r₁, r₂, stage', h₁, hs, advances, h₂, hrest⟩ := h.split
  obtain ⟨r₃, r₄, stage₄, h₃, hs', advances', -, -⟩ := hrest.split
  obtain ⟨hi, submitted, departure, hdepart, -⟩ := hq
  have recorded : ∃ j, p.session.phase = .active j ∧ p.session.advancesOn setup.document j id = true := by
    have effect := advances.effect
    rw [hp, ← hs] at effect
    rcases effect_of_record effect with ⟨t, rfl⟩ | hrecorded
    · -- The call would be done, but it leaves a page later on.
      have hdone := (h₃.not_done advances.getElem?_self).1
      rw [← hcall, advances'.found, hdepart] at hdone
      cases hdone
    · exact hrecorded
  obtain ⟨j, hj, ha⟩ := recorded
  obtain ⟨hblock, hauto⟩ := Bool.and_eq_true_iff.mp ha
  obtain ⟨block, hmem, hid⟩ := List.any_eq_true.mp hblock
  refine ⟨j, hj, ⟨block, hmem, eq_of_beq hid⟩, hauto, ?_, fun earlier later q' k hbetween hleaves => ?_,
    fun earlier later q' k hbefore hleaves => ?_⟩
  · -- Both pages are what the session has come to last.
    have hij := (h₂.trans h₃).index_landings
    have hjj := h₁.index_landings
    rw [(h₂.trans h₃).index i (Or.inl (hs' ▸ hi)), landings_append, landings_append, List.getLast?_append] at hij
    rw [h₁.index j (Or.inl (hs ▸ hj))] at hjj
    have hquiet : landings setup.document [p] = [] := by
      rw [landings, List.filterMap_eq_nil_iff]
      intro q hq
      obtain rfl := List.mem_singleton.mp hq
      simp only [Passage.landing?, hp]
    rw [hquiet, List.append_nil] at hij
    cases hlast : (landings setup.document between).getLast? with
    | none =>
      rw [hlast, Option.none_or, ← hjj] at hij
      exact ⟨fun _ _ hk => absurd hk (Option.not_mem_none _), fun _ => hij⟩
    | some k =>
      rw [hlast, Option.some_or, Option.getD_some] at hij
      subst hij
      exact ⟨fun e k hk => (Option.some.inj hk).symm.trans e, fun h => h i rfl⟩
  · rw [hbetween] at h₃
    exact h₃.landing_of_leaves hleaves (by rw [← hs', hi]; rfl)
  · rw [hbefore] at h₁
    exact h₁.landing_of_leaves hleaves (by rw [← hs, hj]; rfl)

end

/-- A page that moves on with its answer, and two empty ones. -/
def clicked : Setup where
  document :=
    { pages := [{ id := "first", blocks := [{ id := "pick", kind := .dropdown }] }, { id := "second" },
        { id := "third" }] }
  window := 0

open scoped Grammars in
/-- One answer leaves the page that it was given on. -/
theorem answer_leaves_of_one : ∃ log r p q, Reaches clicked (start clicked ∅ ∅) log r ∧ log = [p, q] ∧
    p.session.phase = .active 0 ∧ q.Leaves clicked.document 0 := by
  have h : Reaches clicked (start clicked ∅ ∅) ([] ++ _ :: ([] ++ _ :: [])) _ :=
    Reaches.of_follow? [.call (.set "pick" (.text "a")), .advance 0, .advance 0] rfl
  obtain ⟨j, hj, -, -, hiff, -, -⟩ := answer_leaves_iff (i := 0) h rfl rfl ⟨rfl, ∅, _, rfl, rfl⟩
  have hsame : 0 = j := hiff.mpr fun k hk => by cases hk
  subst hsame
  exact ⟨_, _, _, _, h, rfl, hj, rfl, ∅, _, rfl, rfl⟩

open scoped Grammars in
/-- Two answers to the block of the first page, both recorded there before either has left it: the first one leaves
the first page and arrives at the second, and then the second one leaves the second. -/
theorem answer_leaves_another_page : ∃ log r before p earlier q' later q,
    Reaches clicked (start clicked ∅ ∅) log r ∧ r.calls.length = 2 ∧
    log = before ++ p :: (earlier ++ q' :: (later ++ [q])) ∧
    p.stage = .record "pick" (.text "b") ∧ p.session.phase = .active 0 ∧
    q'.call ≠ p.call ∧ q'.Leaves clicked.document 0 ∧
    q.call = p.call ∧ q.Leaves clicked.document 1 := by
  have h : Reaches clicked (start clicked ∅ ∅) ([_] ++ _ :: ([] ++ _ :: ([_] ++ [_]))) _ :=
    Reaches.of_follow? [.call (.set "pick" (.text "a")), .call (.set "pick" (.text "b")), .advance 0, .advance 1,
      .advance 0, .advance 0, .advance 1] rfl
  exact ⟨_, _, _, _, _, _, _, _, h, rfl, rfl, rfl, rfl, Nat.zero_ne_one, ⟨rfl, ∅, _, rfl, rfl⟩, rfl,
    rfl, ∅, _, rfl, rfl⟩

end Questionnaire.Run
