import Questionnaire.Grammars.Builtin
import Questionnaire.Proofs.Session.Bounds
import Questionnaire.Proofs.Session.Strictness

/-!
# Sessions on sound documents

In a document without defects there is nothing that a session would have to put up with, whatever calls are made and
however their sections are ordered. The page that is active is there, its rule and all that this one reads are as they
should be, a jump leads to the page that it names, and a session that ends elsewhere ends at an address.
-/

namespace Questionnaire

def Destination.address? : Destination → Option String
  | elsewhere url => some url
  | page _ | finish => none

/-- The address that a call has left its page for, or has answered with. -/
def Stage.address? : Stage → Option String
  | note _ destination | arrive destination => destination.address?
  | settle redirect | await _ _ redirect | tell _ redirect _ | clear _ redirect => redirect
  | done (some (.redirected url)) => some url
  | _ => none

/-- A call that is going somewhere is to note its submission first, or is about to arrive. -/
theorem Stage.cases_of_destination? {stage : Stage} {destination : Destination}
    (hd : stage.destination? = some destination) : (∃ k, stage = .note k destination) ∨ stage = .arrive destination := by
  cases stage with
  | note k =>
    obtain rfl := Option.some.inj hd
    exact Or.inl ⟨k, rfl⟩
  | arrive =>
    obtain rfl := Option.some.inj hd
    exact Or.inr rfl
  | record | depart | back | settle | await | tell | clear | done => cases hd

theorem Stage.address?_of_destination? {stage : Stage} {destination : Destination}
    (hd : stage.destination? = some destination) : stage.address? = destination.address? := by
  rcases cases_of_destination? hd with ⟨k, rfl⟩ | rfl <;> rfl

namespace Run

/-- Call `n` has left page `i` and is on its way to that page. -/
structure IsBound (n i : Nat) (q : PageRef) (r : Run) : Prop where
  phase : r.session.phase = .transitioning i
  call : ∃ stage, r.calls[n]? = some stage ∧ stage.destination? = some (.page q)

/-- However the run goes on, the next page that the session comes to is that one, when call `n` is answered so. If only
this call goes on, it comes to its answer with that page active. -/
structure HeadsFor [Grammars] (setup : Setup) (n i : Nat) (q : PageRef) (r : Run) : Prop where
  next : ∀ log r', Reaches setup r log r' → r'.IsBound n i q ∧ landings setup.document log = [] ∨
    r'.calls[n]? = some (.done (some (.moved q))) ∧ (landings setup.document log).head? = some q.index
  arrives : ∃ r', Completes setup n r (some (.moved q)) r' ∧ r'.session.phase = .active q.index

/-- Whenever page `i` is left, on answers that pass and without leading elsewhere, and its rule decides on a jump, there is
one and only one page of that id, and the call heads for it. -/
def FollowsJumps [Grammars] (setup : Setup) (i : Nat) (page : Page) (r : Run) : Prop :=
  ∀ n submitted target, page.redirect? = none → r.calls[n]? = some (.depart submitted) →
    validate (page.visible r.session.hidden) (r.session.answers.extend submitted) = none →
    (setup.document.outcome (some page) (r.session.answers.extend submitted) r.session.vars).next = some target →
    ∃ (j : Nat) (q : Page) (r₁ : Run), setup.document.pages[j]? = some q ∧ q.id = target ∧
      (∀ k (p : Page), setup.document.pages[k]? = some p → p.id = target → k = j) ∧
      r.move? setup (.advance n) = some r₁ ∧ HeadsFor setup n i (q.ref j) r₁

/-- The page that is shown is there, and so is the page that a call is on its way to. -/
structure Placed (d : Document) (r : Run) : Prop where
  shown : ∀ i, r.session.phase = .active i → ∃ page, d.pages[i]? = some page
  coming : ∀ stage ∈ r.calls, ∀ q, stage.destination? = some (.page q) → ∃ page, d.pages[q.index]? = some page

section
variable [Grammars] {setup : Setup} {store : Entries Answers} {given : Answers} {log : List Passage} {r r' : Run}
  {d : Document}
  {n i k : Nat} {q : PageRef} {stage stage' : Stage} {url : String}

/-! ### The page that is shown -/

theorem Reaches.placed (h : Reaches setup (start setup store given) log r) (hpages : setup.document.pages ≠ []) :
    Placed setup.document r := by
  refine ⟨fun i hi => ?_, fun stage hs q hq => ?_⟩
  · obtain rfl := h.index i (Or.inl hi)
    rcases h.index_lt with hlt | ⟨hnil, -⟩
    · exact ⟨_, List.getElem?_eq_getElem hlt⟩
    · exact absurd hnil hpages
  · obtain ⟨page, hp, -⟩ := h.page_of_destination? hs hq
    exact ⟨page, hp⟩

/-! ### The address of the end -/

omit [Grammars] in
theorem exists_of_toward {submitted : Answers} {s : Session} (h : s.toward d i submitted = .elsewhere url) :
    ∃ page ∈ d.pages, page.redirect? = some url := by
  rw [Session.toward, Session.destination] at h
  split at h
  · rename_i hr
    obtain ⟨page, hp, hr⟩ := Option.bind_eq_some_iff.mp hr
    exact ⟨page, List.mem_of_getElem? hp, hr.trans (congrArg some (Destination.elsewhere.inj h))⟩
  · simp only at h
    split at h <;> cases h

/-- The address of a call is that of the page that it has left, ever after. -/
theorem Acts.address (h : Acts setup r stage r' stage') (hurl : stage'.address? = some url) :
    stage.address? = some url ∨ ∃ page ∈ setup.document.pages, page.redirect? = some url := by
  have left : ∀ {i submitted} {next : Stage}, next.destination? = some (r.session.toward setup.document i submitted) →
      next.address? = some url → ∃ page ∈ setup.document.pages, page.redirect? = some url := by
    intro i submitted next hd hnext
    rw [Stage.address?_of_destination? hd] at hnext
    cases htoward : r.session.toward setup.document i submitted with
    | elsewhere url' =>
      rw [htoward] at hnext
      obtain rfl := Option.some.inj hnext
      exact exists_of_toward htoward
    | page | finish =>
      rw [htoward] at hnext
      cases hnext
  cases h with
  | refused _ hr =>
    cases stage with
    | record | depart | back =>
      obtain rfl := Option.some.inj hr
      cases hurl
    | note | arrive | settle | await | tell | clear | done => cases hr
  | recorded => split at hurl <;> cases hurl
  | rejected | stayed | returned | strayed | reached => cases hurl
  | vacated => exact Or.inr (left rfl hurl)
  | departed => exact Or.inr (left (Destination.destination?_noted _ _) hurl)
  | noted | redirected | finished | settled | awaited | told => exact Or.inl hurl
  | @cleared _ redirect =>
    cases redirect with
    | some => exact Or.inl hurl
    | none => cases hurl

theorem Reaches.address (h : Reaches setup (start setup store given) log r) (hs : stage ∈ r.calls)
    (hurl : stage.address? = some url) : ∃ page ∈ setup.document.pages, page.redirect? = some url := by
  induction h generalizing stage with
  | refl => cases hs
  | @step log r r' m _ hm ih =>
    cases m with
    | call c =>
      obtain rfl := Option.some.inj hm
      rcases List.mem_append.mp hs with hs | hs
      · exact ih hs hurl
      · obtain rfl := List.mem_singleton.mp hs
        cases c <;> cases hurl
    | advance n =>
      obtain ⟨before, stage', r₁, advances, acts, rfl⟩ := move?_acts hm
      rcases advances.mem_cases hs with hs | rfl
      · exact ih hs hurl
      · rcases acts.address hurl with hurl | hpage
        · exact ih advances.mem hurl
        · exact hpage
    | deliver | cache | tick => exact ih ((move?_still rfl hm).calls ▸ hs) hurl

/-! ### On the way to a page -/

theorem Advances.getElem?_done {t : Option Transition} (advances : Advances d k stage stage' r r')
    (hn : r.calls[n]? = some (.done t)) : r'.calls[n]? = some (.done t) := by
  rw [advances.getElem?_ne, hn]
  rintro rfl
  rw [advances.found] at hn
  obtain rfl := Option.some.inj hn
  exact absurd advances.effect.rank_lt (Nat.not_lt_zero _)

omit [Grammars] in
/-- While no page is active, only a call that holds the session can bring it to a page. -/
theorem landing?_eq_none {s : Session} (hs : stage.holds = false) (hp : s.phase.isActive = false) :
    (⟨k, stage, s⟩ : Passage).landing? d = none := by
  cases stage with
  | back => rw [Passage.landing?, Session.back_of_not_active hp]
  | arrive => cases hs
  | record | depart | note | settle | await | tell | clear | done => rfl

/-- A call that is on its way to a page stays so, or arrives there. -/
theorem IsBound.passage (bound : r.IsBound n i q) (regime : Regime r) (advances : Advances d k stage stage' r r') :
    r'.IsBound n i q ∧ (⟨k, stage, r.session⟩ : Passage).landing? d = none ∨
      r'.calls[n]? = some (.done (some (.moved q))) ∧
        (⟨k, stage, r.session⟩ : Passage).landing? d = some q.index := by
  obtain ⟨held, hn, hd⟩ := bound.call
  have hp : r.session.phase.isActive = false := by rw [bound.phase]; rfl
  by_cases hk : k = n
  · subst hk
    obtain rfl : held = stage := Option.some.inj (hn.symm.trans advances.found)
    rcases advances.effect.of_destination? hd with ⟨hcore, hd', hnot⟩ | ⟨rfl, -, rfl⟩
    · refine Or.inl ⟨⟨(Session.phase_of_core hcore).trans bound.phase, _, advances.getElem?_self, hd'⟩, ?_⟩
      rcases Stage.cases_of_destination? hd with ⟨k, rfl⟩ | rfl
      · rfl
      · exact absurd rfl hnot
    · exact Or.inr ⟨advances.getElem?_self, rfl⟩
  · have hfree : stage.holds = false := by
      cases hs : stage.holds with
      | false => rfl
      | true =>
        have inFlight : r.InFlight n i := ⟨bound.phase, held, hn, by rw [hd]; rfl⟩
        exact absurd (regime.inFlight_unique inFlight advances.found hs).symm hk
    obtain ⟨hsession, -⟩ := advances.effect.of_idle hfree hp
    exact Or.inl ⟨⟨by rw [hsession, bound.phase], held, by rw [advances.getElem?_ne (Ne.symm hk), hn], hd⟩,
      landing?_eq_none hfree hp⟩

theorem IsBound.next (bound : r.IsBound n i q) (regime : Regime r) (h : Reaches setup r log r') :
    r'.IsBound n i q ∧ landings setup.document log = [] ∨
      r'.calls[n]? = some (.done (some (.moved q))) ∧ (landings setup.document log).head? = some q.index := by
  induction h using Reaches.by_passages with
  | start => exact Or.inl ⟨bound, rfl⟩
  | aside _ _ beside ih =>
    rcases ih with ⟨⟨hp, held, hn, hd⟩, hnil⟩ | ⟨hdone, hhead⟩
    · exact Or.inl ⟨⟨beside.session ▸ hp, held, beside.getElem? hn, hd⟩, hnil⟩
    · exact Or.inr ⟨beside.getElem? hdone, hhead⟩
  | @passage log r' r'' k stage stage' h _ advances ih =>
    rw [landings_append]
    rcases ih with ⟨bound, hnil⟩ | ⟨hdone, hhead⟩
    · rw [hnil, List.nil_append, landings, List.filterMap_cons, List.filterMap_nil]
      rcases bound.passage (h.regime regime) advances with ⟨bound, hnone⟩ | ⟨hdone, hsome⟩
      · exact Or.inl ⟨bound, by rw [hnone]⟩
      · exact Or.inr ⟨hdone, by rw [hsome]; rfl⟩
    · exact Or.inr ⟨advances.getElem?_done hdone, by rw [List.head?_append, hhead]; rfl⟩

theorem conclude_of_destination? {destination : Destination} (hd : stage.destination? = some destination)
    (s : Session) :
    stage.conclude d s = s.arriving destination := by
  rcases Stage.cases_of_destination? hd with ⟨k, rfl⟩ | rfl <;> rfl

theorem IsBound.headsFor (bound : r.IsBound n i q) (h : Reaches setup (start setup store given) log r) :
    HeadsFor setup n i q r := by
  refine ⟨fun log r' h' => bound.next (h.regime (Regime.start setup store given)) h', ?_⟩
  obtain ⟨held, hn, hd⟩ := bound.call
  obtain ⟨t, r', hdone⟩ := h.completes hn
  obtain ⟨news, -, hconclude⟩ := hdone.concludes hn
  rw [conclude_of_destination? hd] at hconclude
  obtain ⟨hcore, rfl, -⟩ := Conclusion.mk.inj hconclude
  exact ⟨r', hdone, Session.phase_of_core hcore.symm⟩

/-- A call that leaves page `i` by a jump comes to the one and only page that the jump names. -/
theorem Reaches.jumps (h : Reaches setup (start setup store given) log r) (sound : setup.document.Sound) {page : Page}
    (hi : r.session.phase = .active i) (hp : setup.document.pages[i]? = some page) : FollowsJumps setup i page r := by
  intro n submitted target hr hn hv hnext
  obtain ⟨q, hq, rfl⟩ := sound.target hnext
  obtain ⟨j, hj, hindex, -, unique⟩ := sound.place hq
  have hvisible : r.session.visible setup.document i = page.visible r.session.hidden := by
    rw [Session.visible, hp]
    rfl
  have htoward : r.session.toward setup.document i submitted = .page (q.ref j) := by
    rw [Session.toward, Session.destination, hp, Option.bind_some, hr]
    simp only [Session.nextIndex, hnext, hindex, hj, Option.bind_some, Option.getD_some]
  obtain ⟨r₁, stage', acts⟩ := Acts.exists_depart setup r submitted
  have hm := acts.move? hn
  have advances := acts.advances hn
  refine ⟨j, q, _, hj, rfl, unique, hm, IsBound.headsFor ?_ (h.step _ hm)⟩
  rcases advances.effect.of_active rfl hi with ⟨-, -, hinvalid⟩ | ⟨submitted', hs, -, hleft, hd'⟩
  · exact absurd (hvisible ▸ hv) (hinvalid submitted rfl)
  · obtain rfl := Stage.depart.inj hs
    exact ⟨by rw [hleft]; rfl, stage', advances.getElem?_self, by rw [hd', htoward]⟩

/-- In every run over a document without defects: an attempt to leave the active page puts up with nothing, whatever
answers it brings. The page that is active is there; its rule is the only one for it, no part of a condition of the rule
is malformed, and every pattern of the page can be read. When the page is left on answers that pass, without leading
elsewhere, and its rule decides on a jump, the next page that the session comes to is the one and only page that the jump
names. And whenever a call is answered that the session has ended elsewhere, this is an address. -/
theorem nothing_is_put_up_with (h : Reaches setup (start setup store given) log r) (hd : setup.document.defects = []) :
    (∀ submitted, r.session.departStrictly? setup.document submitted =
      some (r.session.depart setup.document submitted)) ∧
    (∀ i, r.session.phase = .active i → ∃ page, setup.document.pages[i]? = some page ∧
      setup.document.InOrder page ∧ FollowsJumps setup i page r) ∧
    ∀ url, .done (some (.redirected url)) ∈ r.calls → Grammars.isAddress url = true := by
  have sound := Document.sound_of_defects_eq_nil hd
  have shown := (h.placed sound.pages).shown
  refine ⟨sound.departStrictly? shown, fun i hi => ?_, fun url hurl => ?_⟩
  · obtain ⟨page, hp⟩ := shown i hi
    exact ⟨page, hp, sound.inOrder (List.mem_of_getElem? hp), h.jumps sound hi hp⟩
  · obtain ⟨page, hp, hr⟩ := h.address hurl rfl
    exact sound.address hp hr

end

/-- A name of small letters leads past the second page, and the last one leads elsewhere. -/
def skipping : Setup where
  document :=
    { pages := [{ id := "ask", blocks := [{ id := "name", kind := .textInput, validations := [.pattern "^[a-z]+$"] }] },
        { id := "detour" }, { id := "last", redirectUrl := some "https://example.com" }]
      rules := [⟨"ask", [⟨.jump, .compare .neq (.block "name") (.constant (.text "")),
        { jump := some ⟨.page, "last"⟩ }⟩]⟩] }
  window := 0

open scoped Grammars in
/-- The call that brings such a name leaves the first page strictly and heads for the last one. -/
theorem nothing_is_put_up_with_of_jump : ∃ log r r₁, skipping.document.defects = [] ∧
    Reaches skipping (start skipping ∅ ∅) log r ∧
    r.session.departStrictly? skipping.document ∅ = some (r.session.depart skipping.document ∅) ∧
    r.move? skipping (.advance 0) = some r₁ ∧ HeadsFor skipping 0 0 ⟨"last", 2, ""⟩ r₁ := by
  have hd : skipping.document.defects = [] := by decide +kernel
  have h : Reaches skipping (start skipping ∅ ∅) _ _ :=
    Reaches.of_follow? [.call (.next (Entries.ofList [("name", .text "short")]))] rfl
  obtain ⟨strict, active, -⟩ := nothing_is_put_up_with h hd
  obtain ⟨page, hp, -, follows⟩ := active 0 rfl
  obtain rfl := Option.some.inj hp
  obtain ⟨j, q, r₁, hj, -, unique, hm, heads⟩ := follows 0 _ "last" rfl rfl
    (Option.isNone_iff_eq_none.mp (by decide +kernel)) (by decide +kernel)
  obtain rfl := unique 2 _ rfl rfl
  obtain rfl := Option.some.inj hj
  exact ⟨_, _, r₁, hd, h, strict ∅, hm, heads⟩

end Run

end Questionnaire
