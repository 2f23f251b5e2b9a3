import Questionnaire.Grammars.Builtin
import Questionnaire.Proofs.Session.Soundness

/-!
# What comes of a request to go on

A request to go on that is made while a page is active is turned down for the answers of the page, and nothing changes
but what it brought and what it was told; or the page is left. Where that leads is said here by the lists of the
document alone: by the first rule that is bound to the page, the first page that its jump names, and the address of
the page.
`Run.next_is_specified` says that every request comes to exactly that.
-/

namespace Questionnaire

/-- The item at that place is the first one of the list with the property. -/
structure IsFirst {α : Type} (xs : List α) (P : α → Prop) (i : Nat) (a : α) : Prop where
  found : xs[i]? = some a
  holds : P a
  earlier : ∀ j b, j < i → xs[j]? = some b → ¬ P b

section
variable {α : Type} {xs : List α} {p : α → Bool} {P : α → Prop} {i j : Nat} {a b : α}

theorem findIdx?_eq_some_iff_isFirst (hp : ∀ a, p a = true ↔ P a) :
    xs.findIdx? p = some i ↔ ∃ a, IsFirst xs P i a := by
  rw [List.findIdx?_eq_some_iff_getElem]
  constructor
  · rintro ⟨hlt, hfound, hearlier⟩
    refine ⟨xs[i], List.getElem?_eq_getElem hlt, (hp _).mp hfound, fun j b hj hb hb' => hearlier j hj ?_⟩
    obtain ⟨hin, rfl⟩ := List.getElem?_eq_some_iff.mp hb
    exact (hp _).mpr hb'
  · rintro ⟨a, hfound, hholds, hearlier⟩
    obtain ⟨hlt, rfl⟩ := List.getElem?_eq_some_iff.mp hfound
    refine ⟨hlt, (hp _).mpr hholds, fun j hj hj' => ?_⟩
    exact hearlier j _ hj (List.getElem?_eq_getElem (Nat.lt_trans hj hlt)) ((hp _).mp hj')

theorem find?_eq_some_iff_isFirst (hp : ∀ a, p a = true ↔ P a) : xs.find? p = some a ↔ ∃ i, IsFirst xs P i a := by
  rw [List.find?_eq_some_iff_getElem]
  constructor
  · rintro ⟨hholds, i, hlt, rfl, hearlier⟩
    refine ⟨i, List.getElem?_eq_getElem hlt, (hp _).mp hholds, fun j b hj hb hb' => ?_⟩
    obtain ⟨hin, rfl⟩ := List.getElem?_eq_some_iff.mp hb
    have hnot := hearlier j hj
    rw [(hp _).mpr hb'] at hnot
    cases hnot
  · rintro ⟨i, hfound, hholds, hearlier⟩
    obtain ⟨hlt, rfl⟩ := List.getElem?_eq_some_iff.mp hfound
    refine ⟨(hp _).mpr hholds, i, hlt, rfl, fun j hj => ?_⟩
    have hnot := hearlier j _ hj (List.getElem?_eq_getElem (Nat.lt_trans hj hlt))
    rw [← hp] at hnot
    rw [eq_false_of_ne_true hnot]
    rfl

end

namespace Document

/-- The outcome of leaving a page: what the first rule that is bound to the page makes of the answers and variables.
Without such a rule the variables stay as they are, nothing is hidden and there is no jump. -/
inductive Yields (d : Document) (page : Option Page) (answers : Answers) (vars : Variables) : Outcome → Prop
  | bound {p k rule} : page = some p → IsFirst d.rules (·.pageId = p.id) k rule →
      Yields d page answers vars (rule.outcome answers vars)
  | unbound : (∀ p ∈ page, ∀ rule ∈ d.rules, rule.pageId ≠ p.id) → Yields d page answers vars { vars := vars }

/-- The index to go to from page `i`: that of the first page with the id that a jump names, or the next one if there is
no jump or no such page. -/
inductive Follows (d : Document) (i : Nat) : Option String → Nat → Prop
  | jump {target j page} : IsFirst d.pages (·.id = target) j page → Follows d i (some target) j
  | next {jump} : (∀ target ∈ jump, ∀ page ∈ d.pages, page.id ≠ target) → Follows d i jump (i + 1)

/-- Page `i` leads out of the document: it has an address that is not blank, which is this one without the white space
around it. -/
def LeadsOut (d : Document) (i : Nat) (url : String) : Prop :=
  ∃ page raw, d.pages[i]? = some page ∧ page.redirectUrl = some raw ∧ Text.trim raw ≠ "" ∧ Text.trim raw = url

section
variable {d : Document} {page : Option Page} {answers : Answers} {vars : Variables} {o : Outcome} {i j : Nat}
  {jump : Option String} {url : String}

theorem ruleFor?_eq_some_iff {id : String} {rule : Rule} :
    d.ruleFor? id = some rule ↔ ∃ k, IsFirst d.rules (·.pageId = id) k rule :=
  find?_eq_some_iff_isFirst fun _ => beq_iff_eq

theorem pageIndex?_eq_some_iff {id : String} :
    d.pageIndex? id = some j ↔ ∃ p, IsFirst d.pages (·.id = id) j p :=
  findIdx?_eq_some_iff_isFirst fun _ => beq_iff_eq

theorem yields_iff : d.Yields page answers vars o ↔ o = d.outcome page answers vars := by
  constructor
  · rintro (⟨rfl, hfirst⟩ | hnone)
    · rw [outcome, Option.bind_some, ruleFor?_eq_some_iff.mpr ⟨_, hfirst⟩]
    · have hrule : (page.bind fun p => d.ruleFor? p.id) = none := by
        refine Option.bind_eq_none_iff.mpr fun p hp => List.find?_eq_none.mpr fun rule hrule => ?_
        rw [beq_iff_eq]
        exact hnone p hp rule hrule
      rw [outcome, hrule]
  · rintro rfl
    rw [outcome]
    split
    · rename_i rule hrule
      obtain ⟨p, rfl, hrule⟩ := Option.bind_eq_some_iff.mp hrule
      obtain ⟨k, hfirst⟩ := ruleFor?_eq_some_iff.mp hrule
      exact .bound rfl hfirst
    · rename_i hrule
      refine .unbound fun p hp rule hmem => ?_
      have hnone := List.find?_eq_none.mp (Option.bind_eq_none_iff.mp hrule p hp) rule hmem
      rwa [beq_iff_eq] at hnone

theorem follows_iff : d.Follows i o.next j ↔ j = Session.nextIndex d i o := by
  rw [Session.nextIndex]
  generalize o.next = jump
  constructor
  · rintro (hfirst | hnone)
    · rw [Option.bind_some, pageIndex?_eq_some_iff.mpr ⟨_, hfirst⟩, Option.getD_some]
    · have hindex : jump.bind d.pageIndex? = none := Option.bind_eq_none_iff.mpr fun target htarget =>
        Option.isNone_iff_eq_none.mp (pageIndex?_isNone_iff.mpr (hnone target htarget))
      rw [hindex, Option.getD_none]
  · rintro rfl
    cases hindex : jump.bind d.pageIndex? with
    | some k =>
      obtain ⟨target, rfl, hk⟩ := Option.bind_eq_some_iff.mp hindex
      obtain ⟨page, hfirst⟩ := pageIndex?_eq_some_iff.mp hk
      exact .jump hfirst
    | none =>
      refine .next fun target htarget => ?_
      rw [Option.bind_eq_none_iff] at hindex
      exact pageIndex?_isNone_iff.mp (Option.isNone_iff_eq_none.mpr (hindex target htarget))

theorem leadsOut_iff : d.LeadsOut i url ↔ (d.pages[i]?).bind Page.redirect? = some url := by
  simp only [LeadsOut, Option.bind_eq_some_iff, Page.redirect?_eq_some_iff, exists_and_left]

theorem bind_redirect?_eq_none (h : ∀ url, ¬ d.LeadsOut i url) : (d.pages[i]?).bind Page.redirect? = none :=
  Option.eq_none_iff_forall_ne_some.mpr fun url hurl => h url (leadsOut_iff.mpr hurl)

end

end Document

namespace Session
variable {d : Document} {s s' : Session} {i : Nat} {submitted : Answers} {o : Outcome} {url : String} {page : Page}

/-- Page `i` has been left on these answers with that outcome, and can be gone back to as it was. -/
structure HasLeft (i : Nat) (answers : Answers) (o : Outcome) (s s' : Session) : Prop where
  answers : s'.answers = answers
  complaints : s'.complaints = none
  vars : s'.vars = o.vars
  hidden : s'.hidden = o.hidden
  history : s'.history = ⟨i, s.vars, s.hidden⟩ :: s.history

theorem hasLeft_of_core {destination : Destination} (h : ((s.left d i submitted).arrive destination).core = s'.core) :
    s.HasLeft i (s.answers.extend submitted) (d.outcome d.pages[i]? (s.answers.extend submitted) s.vars) s' := by
  have of_left : ∀ {α : Type} (field : Session → α), field s'.core = field s' →
      field ((s.left d i submitted).arrive destination).core = field (s.left d i submitted) →
      field s' = field (s.left d i submitted) := by
    intro α field hcore harrive
    rw [← hcore, ← h, harrive]
  constructor
  · exact of_left Session.answers rfl (by cases destination <;> rfl)
  · exact of_left Session.complaints rfl (by cases destination <;> rfl)
  · exact of_left Session.vars rfl (by cases destination <;> rfl)
  · exact of_left Session.hidden rfl (by cases destination <;> rfl)
  · exact of_left Session.history rfl (by cases destination <;> rfl)

theorem answer_destination_eq_redirected_iff :
    (destination d i o).answer = .redirected url ↔ d.LeadsOut i url := by
  rw [Document.leadsOut_iff]
  cases hredirect : (d.pages[i]?).bind Page.redirect? with
  | some address =>
    rw [destination, hredirect, Option.some.injEq, ← Transition.redirected.injEq]
    exact Iff.rfl
  | none =>
    refine iff_of_false (fun h => ?_) fun h => Option.some_ne_none _ h.symm
    rw [destination, hredirect] at h
    cases hp : d.pages[nextIndex d i o]? with
    | some page =>
      simp only [hp] at h
      cases h
    | none =>
      simp only [hp] at h
      cases h

theorem destination_of_page (h : ∀ url, ¬ d.LeadsOut i url) (hp : d.pages[nextIndex d i o]? = some page) :
    destination d i o = .page (page.ref (nextIndex d i o)) := by
  rw [destination, Document.bind_redirect?_eq_none h]
  simp only [hp]

theorem destination_of_end (h : ∀ url, ¬ d.LeadsOut i url) (hp : d.pageCount ≤ nextIndex d i o) :
    destination d i o = .finish := by
  rw [destination, Document.bind_redirect?_eq_none h]
  simp only [List.getElem?_eq_none hp]

end Session

/-- Where the session is when a call has been answered so that has left a page. -/
def Transition.phase? : Transition → Option Phase
  | moved q => some (.active q.index)
  | redirected url => some (.redirecting url)
  | completed => some .completed
  | ignored | invalid _ => none

theorem Destination.phase?_answer (destination : Destination) (s : Session) :
    destination.answer.phase? = some (s.arrive destination).phase := by
  cases destination <;> rfl

namespace Run

/-- The run once call `n` has been turned down: nothing has changed but the answers, what the session was told, and the
answer to the call. -/
def turnDown (n : Nat) (answers : Answers) (complaints : Complaints) (r : Run) : Run :=
  { r with
    session := { r.session with answers := answers, complaints := some complaints }
    calls := r.calls.set n (.done (some (.invalid complaints))) }

section
variable [Grammars] {setup : Setup} {store : Entries Answers} {given : Answers} {log : List Passage} {r r₁ r' : Run}
  {n i : Nat}
  {t : Option Transition} {submitted : Answers} {complaints : Complaints}

theorem move?_turnDown (hi : r.session.phase = .active i) (hn : r.calls[n]? = some (.depart submitted))
    (hv : validate (r.session.visible setup.document i) (r.session.answers.extend submitted) = some complaints) :
    r.move? setup (.advance n) = some (r.turnDown n (r.session.answers.extend submitted) complaints) :=
  (Acts.rejected hi hv).move? hn

/-- A request whose answers do not pass is turned down, and does nothing else. -/
theorem Completes.of_invalid (h : Completes setup n r t r') (hi : r.session.phase = .active i)
    (hn : r.calls[n]? = some (.depart submitted))
    (hv : validate (r.session.visible setup.document i) (r.session.answers.extend submitted) = some complaints) :
    t = some (.invalid complaints) ∧ ∃ r₁, Waits setup r r₁ ∧
      Waits setup (r₁.turnDown n (r.session.answers.extend submitted) complaints) r' := by
  obtain ⟨r₁, r₂, hwaits, hmove, hcompletes⟩ := h.first hn nofun
  have still := hwaits.still
  rw [← still.session] at hi hv
  rw [← still.calls] at hn
  rw [move?_turnDown hi hn hv, still.session] at hmove
  obtain rfl := Option.some.inj hmove
  obtain ⟨ht, hafter⟩ := hcompletes.of_done (List.getElem?_set_self (List.getElem?_eq_some_iff.mp hn).1)
  exact ⟨ht, r₁, hwaits, hafter⟩

/-- A request whose answers pass leaves the page for its destination. -/
theorem Completes.of_valid (h : Completes setup n r t r') (hi : r.session.phase = .active i)
    (hn : r.calls[n]? = some (.depart submitted))
    (hv : validate (r.session.visible setup.document i) (r.session.answers.extend submitted) = none) :
    t = some (r.session.toward setup.document i submitted).answer ∧
      ((r.session.left setup.document i submitted).arrive (r.session.toward setup.document i submitted)).core =
        r'.session.core := by
  obtain ⟨news, -, hconclude⟩ := h.concludes hn
  rw [Stage.conclude, leaving_of_valid hi hv] at hconclude
  obtain ⟨hcore, hanswer, -⟩ := Conclusion.mk.inj hconclude
  exact ⟨hanswer.symm, hcore⟩

/-- From every state of a run in which page `i` is active, take a request to go on that is made with some answers, and
that no other call comes in between of. It comes to an end, and its outcome and the next index are found by the lists
of the document. Take the answers of the session extended by those that it brings, and the blocks of the page that are
not hidden. The request is answered with complaints exactly when validation has these; then the session has these
answers and complaints, and all else goes on as if the request had not been made, so that it can be made again.
Otherwise the session has left the page with the variables and hidden blocks of the outcome. It is led out of the
document exactly when the page has an address, whatever the outcome; if not, it has ended when the next index is past
the last page, and has come to the page of that index when there is one. -/
theorem next_is_specified (h : Reaches setup (start setup store given) log r) (hi : r.session.phase = .active i)
    (hcall : r.move? setup (.call (.next submitted)) = some r₁) :
    let d := setup.document
    let answers := r.session.answers.extend submitted
    let blocks := ((d.pages[i]?).map fun page => page.blocks.filter fun b => b.id ∉ r.session.hidden).getD []
    (∃ t r', Completes setup r.calls.length r₁ t r') ∧
    (∃ o j, d.Yields d.pages[i]? answers r.session.vars o ∧ d.Follows i o.next j) ∧
    ∀ t r' o j, Completes setup r.calls.length r₁ t r' → d.Yields d.pages[i]? answers r.session.vars o →
      d.Follows i o.next j →
      (∀ complaints, t = some (.invalid complaints) ↔ validate blocks answers = some complaints) ∧
      (∀ complaints, validate blocks answers = some complaints →
        r'.session = { r.session with answers := answers, complaints := some complaints } ∧ r'.events = r.events ∧
        ∃ r₂, Waits setup r₁ r₂ ∧ Waits setup (r₂.turnDown r.calls.length answers complaints) r') ∧
      (validate blocks answers = none →
        r.session.HasLeft i answers o r'.session ∧ t.bind Transition.phase? = some r'.session.phase ∧
        (∀ url, t = some (.redirected url) ↔ d.LeadsOut i url) ∧
        ((∀ url, ¬ d.LeadsOut i url) →
          (d.pageCount ≤ j → t = some .completed) ∧
          ∀ page, d.pages[j]? = some page → t = some (.moved (page.ref j)))) := by
  intro d answers blocks
  have hr₁ := h.step _ hcall
  obtain rfl := Option.some.inj hcall
  have hn : (r.calls ++ [Stage.depart submitted])[r.calls.length]? = some (.depart submitted) :=
    List.getElem?_concat_length
  refine ⟨hr₁.completes hn, ⟨_, _, Document.yields_iff.mpr rfl, Document.follows_iff.mpr rfl⟩,
    fun t r' o j hdone hyields hfollows => ?_⟩
  obtain rfl := Document.yields_iff.mp hyields
  obtain rfl := Document.follows_iff.mp hfollows
  cases hv : validate blocks answers with
  | some complaints =>
    obtain ⟨rfl, r₂, hbefore, hafter⟩ := hdone.of_invalid hi hn hv
    refine ⟨fun other => ?_, fun other hother => ?_, nofun⟩
    · rw [Option.some.injEq, Option.some.injEq, Transition.invalid.injEq]
    · obtain rfl := Option.some.inj hother
      refine ⟨?_, ?_, r₂, hbefore, hafter⟩
      · rw [hafter.still.session, turnDown, hbefore.still.session]
      · rw [hafter.still.events, turnDown, hbefore.still.events]
  | none =>
    obtain ⟨rfl, hcore⟩ := hdone.of_valid hi hn hv
    have hphase : r'.session.phase = ((r.session.left d i submitted).arrive (r.session.toward d i submitted)).phase :=
      (congrArg Session.phase hcore).symm
    refine ⟨fun complaints => iff_of_false ?_ nofun, nofun, fun _ => ⟨Session.hasLeft_of_core hcore, ?_, fun url => ?_,
      fun hin => ⟨fun hend => ?_, fun page hp => ?_⟩⟩⟩
    · cases r.session.toward d i submitted <;> nofun
    · rw [Option.bind_some, Destination.phase?_answer, hphase]
    · rw [Option.some.injEq]
      exact Session.answer_destination_eq_redirected_iff
    · rw [Session.toward, Session.destination_of_end hin hend]
      rfl
    · rw [Session.toward, Session.destination_of_page hin hp, Destination.answer]

end

open scoped Grammars in
/-- On the first page of the document, a name of small letters is answered with the last page, which the jump of its
rule names, and a name of capitals is turned down. -/
theorem next_is_specified_of_names :
    (∃ r₁ t r',
      (start skipping ∅ ∅).move? skipping (.call (.next (Entries.ofList [("name", .text "short")]))) = some r₁ ∧
      Completes skipping 0 r₁ t r' ∧ t = some (.moved ⟨"last", 2, ""⟩) ∧ r'.session.phase = .active 2) ∧
    ∃ r₁ t r' complaints,
      (start skipping ∅ ∅).move? skipping (.call (.next (Entries.ofList [("name", .text "LONG")]))) = some r₁ ∧
      Completes skipping 0 r₁ t r' ∧ t = some (.invalid complaints) ∧ r'.session.complaints = some complaints ∧
      r'.session.phase = .active 0 := by
  have h : Reaches skipping (start skipping ∅ ∅) [] (start skipping ∅ ∅) := .refl
  have asked : ∀ submitted, (start skipping ∅ ∅).move? skipping (.call (.next submitted)) =
      some { start skipping ∅ ∅ with calls := [.depart submitted] } := fun _ => rfl
  have inside : ∀ url, ¬ skipping.document.LeadsOut 0 url := fun url hurl => by
    rw [Document.leadsOut_iff] at hurl
    cases hurl
  constructor
  · obtain ⟨⟨t, r', hdone⟩, ⟨o, j, hyields, hfollows⟩, spec⟩ :=
      next_is_specified h rfl (asked (Entries.ofList [("name", .text "short")]))
    obtain ⟨-, -, left⟩ := spec t r' o j hdone hyields hfollows
    obtain ⟨-, hphase, -, within⟩ := left (by decide +kernel)
    have hj : j = 2 := by
      rw [Document.yields_iff] at hyields
      subst hyields
      rw [Document.follows_iff.mp hfollows]
      decide +kernel
    obtain rfl := (within inside).2 { id := "last", redirectUrl := some "https://example.com" } (hj ▸ rfl)
    rw [hj] at hphase hdone
    exact ⟨_, _, r', rfl, hdone, rfl, (Option.some.inj hphase).symm⟩
  · obtain ⟨⟨t, r', hdone⟩, ⟨o, j, hyields, hfollows⟩, spec⟩ :=
      next_is_specified h rfl (asked (Entries.ofList [("name", .text "LONG")]))
    obtain ⟨answered, turned, -⟩ := spec t r' o j hdone hyields hfollows
    have hv : (validate ((start skipping ∅ ∅).session.visible skipping.document 0)
        (Entries.extend ∅ (Entries.ofList [("name", .text "LONG")]))).isSome = true := by decide +kernel
    obtain ⟨complaints, hv⟩ := Option.isSome_iff_exists.mp hv
    obtain ⟨hsession, -⟩ := turned complaints hv
    exact ⟨_, t, r', complaints, rfl, hdone, (answered complaints).mpr hv, by rw [hsession], by rw [hsession]; rfl⟩

end Run

end Questionnaire
