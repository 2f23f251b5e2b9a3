import Questionnaire.Proofs.Document.Defects
import Questionnaire.Proofs.Session.Sections

/-!
# Leaving a page strictly

A session puts up with every defect of its document: a malformed part of a condition does not hold, a pattern that cannot
be read has no complaint, of several rules or pages of one id the first one is taken, and a jump to a page that is not
there goes on to the next one. Here a page is left strictly, with no result as soon as one of these would be put up with.
On a page of a sound document both come to the same.
-/

namespace Questionnaire

namespace Condition

mutual

/-- Whether the condition holds, if no part of it is malformed. -/
def judge? (answers : Answers) (vars : Variables) : Condition → Option Bool
  | .always => some true
  | .all parts => judgeAll? answers vars parts
  | .any parts => judgeAny? answers vars parts
  | .compare op left right => some (op.holds (left.resolve answers vars) (right.resolve answers vars))
  | .malformed _ => none

def judgeAll? (answers : Answers) (vars : Variables) : List Condition → Option Bool
  | [] => some true
  | c :: rest => do return (← judge? answers vars c) && (← judgeAll? answers vars rest)

def judgeAny? (answers : Answers) (vars : Variables) : List Condition → Option Bool
  | [] => some false
  | c :: rest => do return (← judge? answers vars c) || (← judgeAny? answers vars rest)

end

end Condition

/-- An action has its effect if its condition holds, and none is had if that cannot be judged. -/
def Action.step? (answers : Answers) (o : Outcome) (a : Action) : Option Outcome :=
  (a.condition.judge? answers o.vars).map fun holds => if holds then a.fire o else o

def Rule.outcome? (r : Rule) (answers : Answers) (vars : Variables) : Option Outcome :=
  r.actions.foldlM (Action.step? answers) { vars := vars }

/-- The complaint of a validation, if its pattern can be read. -/
def Validation.assess? [Grammars] (answer : Option Json) : Validation → Option (Option Complaint)
  | pattern source => (Grammars.compile source).toOption.map fun fits =>
    if isTruthyAnswer answer then if fits (answerText answer) then none else some .badFormat else none
  | v => some (v.complaint? answer)

def Block.assess? [Grammars] (b : Block) (answers : Answers) : Option (Option Complaint) :=
  b.validations.findSomeM? (Validation.assess? (answers.get? b.id))

/-- The complaints of all blocks, none if there are none. -/
def validate? [Grammars] (blocks : List Block) (answers : Answers) : Option (Option Complaints) := do
  let found ← blocks.mapM fun b => do return (← b.assess? answers).map (b.id, ·)
  let found : Complaints := Entries.ofList (found.filterMap id)
  return if found.isEmpty then none else some found

namespace Document

/-- The one and only rule of a page, or that it has none. -/
def onlyRule? (d : Document) (pageId : String) : Option (Option Rule) :=
  match d.rules.filter fun r => r.pageId == pageId with
  | [] => some none
  | [r] => some (some r)
  | _ => none

/-- The place of the one and only page with that id. -/
def onlyPage? (d : Document) (id : String) : Option Nat :=
  match d.pages.filter fun p => p.id == id with
  | [_] => d.pageIndex? id
  | _ => none

def outcome? (d : Document) (page : Page) (answers : Answers) (vars : Variables) : Option Outcome := do
  match ← d.onlyRule? page.id with
  | some r => r.outcome? answers vars
  | none => return { vars := vars }

/-- The page to go to, which for a jump has to be there. -/
def nextIndex? (d : Document) (index : Nat) (o : Outcome) : Option Nat :=
  match o.next with
  | some id => d.onlyPage? id
  | none => some (index + 1)

/-- Where a page leads, if its address is one. -/
def destination? [Grammars] (d : Document) (page : Page) (index : Nat) (o : Outcome) : Option Destination := do
  let i ← d.nextIndex? index o
  match page.redirect? with
  | some url => if Grammars.isAddress url then some (.elsewhere url) else none
  | none => return match d.pages[i]? with
    | some p => .page (p.ref i)
    | none => .finish

end Document

/-- An attempt to leave the active page that puts up with nothing. -/
def Session.departStrictly? [Grammars] (d : Document) (submitted : Answers) (s : Session) : Option
    (Session × Decision) :=
  match s.phase with
  | .active index => do
    let page ← d.pages[index]?
    let answers := s.answers.extend submitted
    let blocks := page.visible s.hidden
    match ← validate? blocks answers with
    | some complaints =>
      return ({ s with answers := answers, complaints := some complaints }, .invalid complaints)
    | none =>
      let o ← d.outcome? page answers s.vars
      let destination ← d.destination? page index o
      return ({ s with
          answers := answers
          phase := .transitioning index
          complaints := none
          vars := o.vars
          hidden := o.hidden
          history := ⟨index, s.vars, s.hidden⟩ :: s.history },
        .departed ⟨some ⟨page.ref index, answersOf blocks answers⟩, destination⟩)
  | _ => some (s, .ignored)

/-- All that is read when the page is left is as it should be. -/
structure Document.InOrder [Grammars] (d : Document) (page : Page) : Prop where
  rule : ∀ r, d.ruleFor? page.id = some r → d.rules.filter (fun other => other.pageId == page.id) = [r]
  conditions : ∀ r, d.ruleFor? page.id = some r → ∀ a ∈ r.actions, ∀ raw, ¬ Condition.Part (.malformed raw) a.condition
  patterns : ∀ b ∈ page.blocks, ∀ source, .pattern source ∈ b.validations → ∃ fits, Grammars.compile source = .ok fits

/-! ### What a sound document leaves to put up with -/

namespace Condition
variable {answers : Answers} {vars : Variables}

mutual

theorem judge?_of_no_part : ∀ c : Condition, (∀ raw, ¬ Part (.malformed raw) c) →
    c.judge? answers vars = some (c.holds answers vars)
  | .always, _ => rfl
  | .compare _ _ _, _ => rfl
  | .malformed raw, h => absurd .refl (h raw)
  | .all parts, h => judgeAll?_of_no_part parts fun _ hc raw hpart => h raw (.all hc hpart)
  | .any parts, h => judgeAny?_of_no_part parts fun _ hc raw hpart => h raw (.any hc hpart)

theorem judgeAll?_of_no_part : ∀ parts : List Condition, (∀ c ∈ parts, ∀ raw, ¬ Part (.malformed raw) c) →
    judgeAll? answers vars parts = some (allHold answers vars parts)
  | [], _ => rfl
  | c :: rest, h => by
    obtain ⟨hc, hrest⟩ := List.forall_mem_cons.mp h
    rw [judgeAll?, judge?_of_no_part c hc, judgeAll?_of_no_part rest hrest]
    rfl

theorem judgeAny?_of_no_part : ∀ parts : List Condition, (∀ c ∈ parts, ∀ raw, ¬ Part (.malformed raw) c) →
    judgeAny? answers vars parts = some (anyHolds answers vars parts)
  | [], _ => rfl
  | c :: rest, h => by
    obtain ⟨hc, hrest⟩ := List.forall_mem_cons.mp h
    rw [judgeAny?, judge?_of_no_part c hc, judgeAny?_of_no_part rest hrest]
    rfl

end

end Condition

theorem Rule.outcome?_of_no_part {r : Rule} (h : ∀ a ∈ r.actions, ∀ raw, ¬ Condition.Part (.malformed raw) a.condition)
    (answers : Answers) (vars : Variables) : r.outcome? answers vars = some (r.outcome answers vars) := by
  rw [outcome?, outcome, Outcome.ofActions]
  generalize r.actions = actions at h
  generalize ({ vars := vars } : Outcome) = o
  induction actions generalizing o with
  | nil => rfl
  | cons a rest ih =>
    obtain ⟨ha, hrest⟩ := List.forall_mem_cons.mp h
    rw [List.foldlM_cons, Action.step?, a.condition.judge?_of_no_part ha]
    exact ih hrest _

theorem Validation.assess?_of_readable [Grammars] {v : Validation}
    (h : ∀ source, v = .pattern source → ∃ fits, Grammars.compile source = .ok fits)
    (answer : Option Json) : v.assess? answer = some (v.complaint? answer) := by
  cases v with
  | pattern source =>
    obtain ⟨fits, hfits⟩ := h source rfl
    simp only [assess?, complaint?, hfits, Except.toOption, Option.map_some]
  | _ => rfl

theorem Block.assess?_of_readable [Grammars] {b : Block}
    (h : ∀ source, .pattern source ∈ b.validations → ∃ fits, Grammars.compile source = .ok fits) (answers : Answers) :
    b.assess? answers = some (b.complaint? answers) := by
  rw [assess?, complaint?]
  generalize b.validations = validations at h
  induction validations with
  | nil => rfl
  | cons v rest ih =>
    have hv := Validation.assess?_of_readable (v := v) (fun source hs => h source (hs ▸ List.mem_cons_self))
      (answers.get? b.id)
    have hrest := ih fun source hs => h source (List.mem_cons_of_mem _ hs)
    rw [List.findSomeM?, hv, List.findSome?_cons]
    cases v.complaint? (answers.get? b.id) with
    | some complaint => rfl
    | none => exact hrest

theorem validate?_of_readable [Grammars] {blocks : List Block}
    (h : ∀ b ∈ blocks, ∀ source, .pattern source ∈ b.validations → ∃ fits, Grammars.compile source = .ok fits)
    (answers : Answers) : validate? blocks answers = some (validate blocks answers) := by
  have found : (blocks.mapM fun b => do return (← b.assess? answers).map (b.id, ·)) =
      some (blocks.map fun b => (b.complaint? answers).map (b.id, ·)) := by
    induction blocks with
    | nil => rfl
    | cons b rest ih =>
      obtain ⟨hb, hrest⟩ := List.forall_mem_cons.mp h
      rw [List.mapM_cons, Block.assess?_of_readable hb, ih hrest]
      rfl
  have compact : (blocks.map fun b => (b.complaint? answers).map (b.id, ·)).filterMap id =
      blocks.filterMap fun b => (b.complaint? answers).map (b.id, ·) := by
    rw [List.filterMap_map]
    rfl
  rw [validate?, found]
  simp only [Option.bind_eq_bind, Option.bind_some, compact]
  rfl

/-- At most one item of a list has that key, if the keys are apart. -/
theorem filter_eq_toList_find? {α : Type} {key : α → String} {xs : List α} (h : (xs.map key).Nodup) (k : String) :
    xs.filter (fun x => key x == k) = (xs.find? fun x => key x == k).toList := by
  induction xs with
  | nil => rfl
  | cons x rest ih =>
    obtain ⟨hnot, hrest⟩ := List.nodup_cons.mp h
    rw [List.filter_cons, List.find?_cons]
    cases hk : key x == k with
    | false => exact ih hrest
    | true =>
      have hnone : rest.filter (fun y => key y == k) = [] := by
        refine List.filter_eq_nil_iff.mpr fun y hy hyk => hnot ?_
        rw [eq_of_beq hk, ← eq_of_beq hyk]
        exact List.mem_map_of_mem hy
      rw [if_pos rfl, hnone]
      rfl

/-- A jump that a rule decides on is one of its actions. -/
theorem Rule.exists_of_next {r : Rule} {answers : Answers} {vars : Variables} {id : String}
    (h : (r.outcome answers vars).next = some id) : ∃ a ∈ r.actions, a.jumpTarget? = some id := by
  have next : ∀ (actions : List Action) (o : Outcome), (actions.foldl (Action.step answers) o).next = some id →
      o.next = some id ∨ ∃ a ∈ actions, a.jumpTarget? = some id := by
    intro actions
    induction actions with
    | nil => exact fun o ho => Or.inl ho
    | cons a rest ih =>
      intro o ho
      rcases ih _ ho with hnext | ⟨a', ha', hjump⟩
      · rw [Action.step] at hnext
        split at hnext
        · rw [Action.fire] at hnext
          cases ho : o.next with
          | none =>
            rw [ho] at hnext
            exact Or.inr ⟨a, List.mem_cons_self, hnext⟩
          | some =>
            rw [ho] at hnext
            exact Or.inl hnext
        · exact Or.inl hnext
      · exact Or.inr ⟨a', List.mem_cons_of_mem _ ha', hjump⟩
  rcases next r.actions _ h with hnone | hjump
  · cases hnone
  · exact hjump

namespace Document.Sound
variable [Grammars] {d : Document} {page : Page} {answers : Answers} {vars : Variables}

theorem onlyRule? (sound : d.Sound) (pageId : String) : d.onlyRule? pageId = some (d.ruleFor? pageId) := by
  rw [Document.onlyRule?, filter_eq_toList_find? sound.ruleIds, ruleFor?]
  cases d.rules.find? fun r => r.pageId == pageId <;> rfl

theorem outcome? (sound : d.Sound) (page : Page) (answers : Answers) (vars : Variables) :
    d.outcome? page answers vars = some (d.outcome (some page) answers vars) := by
  rw [Document.outcome?, sound.onlyRule?, outcome, Option.bind_some]
  cases hr : d.ruleFor? page.id with
  | none => rfl
  | some r => exact Rule.outcome?_of_no_part (sound.conditions r (List.mem_of_find?_eq_some hr)) answers vars

theorem inOrder (sound : d.Sound) (hp : page ∈ d.pages) : d.InOrder page where
  rule r hr := by
    rw [filter_eq_toList_find? sound.ruleIds, ← ruleFor?, hr]
    rfl
  conditions r hr := sound.conditions r (List.mem_of_find?_eq_some hr)
  patterns b hb := sound.patterns b (List.mem_flatMap.mpr ⟨page, hp, hb⟩)

/-- The target of a jump is there. -/
theorem target (sound : d.Sound) {id : String} (h : (d.outcome (some page) answers vars).next = some id) :
    ∃ p ∈ d.pages, p.id = id := by
  rw [outcome, Option.bind_some] at h
  cases hr : d.ruleFor? page.id with
  | none =>
    rw [hr] at h
    cases h
  | some r =>
    rw [hr] at h
    obtain ⟨a, ha, hjump⟩ := Rule.exists_of_next h
    obtain ⟨hkind, hjump⟩ := Action.jumpTarget?_eq_some_iff.mp hjump
    exact sound.jumps r (List.mem_of_find?_eq_some hr) a ha id hkind hjump

/-- A page is the one and only page with its id. -/
theorem place (sound : d.Sound) {p : Page} (hp : p ∈ d.pages) : ∃ j, d.pages[j]? = some p ∧ d.pageIndex? p.id = some j ∧
    d.onlyPage? p.id = some j ∧ ∀ k q, d.pages[k]? = some q → q.id = p.id → k = j := by
  obtain ⟨j, hj⟩ := List.mem_iff_getElem?.mp hp
  have unique : ∀ k q, d.pages[k]? = some q → q.id = p.id → k = j := by
    intro k q hk hq
    have hlt := (List.getElem?_eq_some_iff.mp hk).1
    refine (List.getElem?_inj (by rwa [List.length_map]) sound.pageIds).mp ?_
    rw [List.getElem?_map, List.getElem?_map, hk, hj, Option.map_some, Option.map_some, hq]
  have hindex : d.pageIndex? p.id = some j := by
    obtain ⟨hlt, hget⟩ := List.getElem?_eq_some_iff.mp hj
    refine List.findIdx?_eq_some_iff_getElem.mpr ⟨hlt, by rw [hget]; exact beq_self_eq_true _, fun k hk hid => ?_⟩
    have := unique k _ (List.getElem?_eq_getElem (Nat.lt_trans hk hlt)) (eq_of_beq hid)
    omega
  refine ⟨j, hj, hindex, ?_, unique⟩
  rw [Document.onlyPage?, filter_eq_toList_find? sound.pageIds]
  cases hfind : d.pages.find? fun q => q.id == p.id with
  | none => exact absurd (beq_self_eq_true p.id) (List.find?_eq_none.mp hfind p hp)
  | some q => exact hindex

theorem address (sound : d.Sound) (hp : page ∈ d.pages) {url : String} (h : page.redirect? = some url) :
    Grammars.isAddress url = true := by
  obtain ⟨raw, hraw, hne, rfl⟩ := Page.redirect?_eq_some_iff.mp h
  exact sound.redirects page hp raw hraw hne

theorem destination? (sound : d.Sound) {i : Nat} {o : Outcome} (hp : d.pages[i]? = some page)
    (hnext : ∀ id, o.next = some id → ∃ p ∈ d.pages, p.id = id) :
    d.destination? page i o = some (Session.destination d i o) := by
  have hindex : d.nextIndex? i o = some (Session.nextIndex d i o) := by
    rw [nextIndex?, Session.nextIndex]
    cases ho : o.next with
    | none => rfl
    | some id =>
      obtain ⟨p, hmem, rfl⟩ := hnext id ho
      obtain ⟨j, -, hj, honly, -⟩ := sound.place hmem
      simp only [honly, hj, Option.bind_some, Option.getD_some]
  rw [Document.destination?, hindex, Session.destination, hp]
  simp only [Option.bind_eq_bind, Option.bind_some]
  cases hr : page.redirect? with
  | none => rfl
  | some url =>
    exact if_pos (sound.address (List.mem_of_getElem? hp) hr)

/-- On a page of a sound document a session puts up with nothing. -/
theorem departStrictly? (sound : d.Sound) {s : Session}
    (hpage : ∀ i, s.phase = .active i → ∃ page, d.pages[i]? = some page)
    (submitted : Answers) : s.departStrictly? d submitted = some (s.depart d submitted) := by
  cases ha : s.phase.isActive with
  | false =>
    rw [Session.depart_of_not_active ha, Session.departStrictly?]
    split
    · rename_i i hi
      rw [hi] at ha
      cases ha
    · rfl
  | true =>
    obtain ⟨i, hi⟩ := Phase.isActive_iff.mp ha
    obtain ⟨page, hp⟩ := hpage i hi
    have readable : ∀ b ∈ page.visible s.hidden, ∀ source, .pattern source ∈ b.validations →
        ∃ fits, Grammars.compile source = .ok fits := fun b hb =>
      (sound.inOrder (List.mem_of_getElem? hp)).patterns b (List.mem_filter.mp hb).1
    have hvisible : s.visible d i = page.visible s.hidden := by rw [Session.visible, hp]; rfl
    simp only [Session.departStrictly?, hi, hp, Option.bind_eq_bind, Option.bind_some, validate?_of_readable readable]
    cases hv : validate (page.visible s.hidden) (s.answers.extend submitted) with
    | some complaints =>
      rw [← hvisible] at hv
      rw [Session.depart_of_invalid hi hv, ← hi]
      rfl
    | none =>
      simp only [sound.outcome?, sound.destination? hp fun id => sound.target, Option.bind_some]
      rw [← hvisible] at hv
      rw [Session.depart_of_valid hi hv, Session.left, Session.toward, hp, hvisible]
      rfl

end Document.Sound

end Questionnaire
