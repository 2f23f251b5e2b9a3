import Questionnaire.Checker
import Questionnaire.Grammars.Builtin

/-!
# What is defective about a document

A document has no defects exactly if it is sound: it has pages, its ids are those of one page, one block and one rule
each, everything in it that is to be read can be read, and everything that a rule names is there. None of this depends
on an order, while the defects are found one after the other with the ids seen before at hand. So an id is reported as
repeated once less often than it occurs, and everything else that is reported is an offence of the document.
-/

namespace Questionnaire

/-- A condition has itself for a part and, under `and` and `or`, the parts of its parts. -/
inductive Condition.Part (part : Condition) : Condition → Prop
  | refl : Part part part
  | all {parts c} : c ∈ parts → Part part c → Part part (.all parts)
  | any {parts c} : c ∈ parts → Part part c → Part part (.any parts)

namespace Condition

mutual

theorem isMalformed_iff : ∀ c : Condition, c.isMalformed = true ↔ ∃ raw, Part (.malformed raw) c
  | .malformed raw => iff_of_true rfl ⟨raw, .refl⟩
  | .always | .compare _ _ _ => by
    refine iff_of_false Bool.false_ne_true ?_
    rintro ⟨raw, h⟩
    cases h
  | .all parts => by
    rw [isMalformed, anyMalformed_iff parts]
    constructor
    · rintro ⟨c, hc, raw, h⟩
      exact ⟨raw, .all hc h⟩
    · rintro ⟨raw, h⟩
      cases h with
      | all hc h => exact ⟨_, hc, raw, h⟩
  | .any parts => by
    rw [isMalformed, anyMalformed_iff parts]
    constructor
    · rintro ⟨c, hc, raw, h⟩
      exact ⟨raw, .any hc h⟩
    · rintro ⟨raw, h⟩
      cases h with
      | any hc h => exact ⟨_, hc, raw, h⟩

theorem anyMalformed_iff : ∀ parts : List Condition,
    anyMalformed parts = true ↔ ∃ c ∈ parts, ∃ raw, Part (.malformed raw) c
  | [] => by
    refine iff_of_false Bool.false_ne_true ?_
    rintro ⟨c, hc, -⟩
    cases hc
  | c :: rest => by
    simp only [anyMalformed, Bool.or_eq_true, isMalformed_iff c, anyMalformed_iff rest, List.mem_cons, exists_eq_or_imp]

end

end Condition

/-- All blocks, in page order. -/
def Document.blocks (d : Document) : List Block := d.pages.flatMap Page.blocks

/-! ### Offences -/

section
variable [Grammars]

/-- What is wrong with a page itself. -/
inductive Page.Offends (p : Page) : Defect → Prop
  | redirect {raw} : p.redirectUrl = some raw → Text.trim raw ≠ "" → Grammars.isAddress (Text.trim raw) = false →
      p.Offends (.invalidRedirect p.id (Text.trim raw))

inductive Block.Offends (b : Block) : Defect → Prop
  | validations : b.validations ≠ [] → b.kind.acceptsInput = false → b.Offends (.validationsWithoutInput b.id)
  | pattern {source message} : .pattern source ∈ b.validations → Grammars.compile source = .error message →
      b.Offends (.invalidPattern b.id message)

/-- What is wrong with an action at a place of the rule of a page. -/
inductive Action.Offends (d : Document) (pageId : String) (place : Nat) (a : Action) : Defect → Prop
  | condition {raw} : Condition.Part (.malformed raw) a.condition → a.Offends d pageId place (.malformedCondition pageId place)
  | hide {id} : a.kind = .hide → a.details.target = some ⟨.block, id⟩ → (∀ b ∈ d.blocks, b.id ≠ id) →
      a.Offends d pageId place (.unknownHideTarget pageId id)
  | jump {id} : a.kind = .jump → a.details.jump = some ⟨.page, id⟩ → (∀ p ∈ d.pages, p.id ≠ id) →
      a.Offends d pageId place (.unknownJumpTarget pageId id)

inductive Rule.Offends (d : Document) (r : Rule) : Defect → Prop
  | dangling : (∀ p ∈ d.pages, p.id ≠ r.pageId) → r.Offends d (.danglingRule r.pageId)
  | action {place e} {a : Action} : r.actions[place]? = some a → a.Offends d r.pageId place e → r.Offends d e

/-- What is wrong with a document, repeated ids apart. -/
inductive Document.Offends (d : Document) : Defect → Prop
  | empty : d.pages = [] → d.Offends .empty
  | page {e} {p : Page} : p ∈ d.pages → p.Offends e → d.Offends e
  | block {e} {b : Block} : b ∈ d.blocks → b.Offends e → d.Offends e
  | rule {e} {r : Rule} : r ∈ d.rules → r.Offends d e → d.Offends e

/-- Everything that is asked of the authors of a document. -/
structure Document.Sound (d : Document) : Prop where
  pages : d.pages ≠ []
  pageIds : (d.pages.map Page.id).Nodup
  blockIds : (d.blocks.map Block.id).Nodup
  ruleIds : (d.rules.map Rule.pageId).Nodup
  redirects : ∀ p ∈ d.pages, ∀ raw, p.redirectUrl = some raw → Text.trim raw ≠ "" →
    Grammars.isAddress (Text.trim raw) = true
  inputs : ∀ b ∈ d.blocks, b.validations ≠ [] → b.kind.acceptsInput = true
  patterns : ∀ b ∈ d.blocks, ∀ source, .pattern source ∈ b.validations → ∃ fits, Grammars.compile source = .ok fits
  rulePages : ∀ r ∈ d.rules, ∃ p ∈ d.pages, p.id = r.pageId
  conditions : ∀ r ∈ d.rules, ∀ a ∈ r.actions, ∀ raw, ¬ Condition.Part (.malformed raw) a.condition
  hides : ∀ r ∈ d.rules, ∀ a ∈ r.actions, ∀ id, a.kind = .hide → a.details.target = some ⟨.block, id⟩ →
    ∃ b ∈ d.blocks, b.id = id
  jumps : ∀ r ∈ d.rules, ∀ a ∈ r.actions, ∀ id, a.kind = .jump → a.details.jump = some ⟨.page, id⟩ →
    ∃ p ∈ d.pages, p.id = id

end

/-- What has an id of its own. For a rule it is that of its page. -/
inductive IdKind where
  | page | block | rule
deriving DecidableEq

def Document.ids (d : Document) : IdKind → List String
  | .page => d.pages.map Page.id
  | .block => d.blocks.map Block.id
  | .rule => d.rules.map Rule.pageId

namespace Defect

/-- The id that is reported to come again. -/
def repeated? : IdKind → Defect → Option String
  | .page, duplicatePage page => some page
  | .block, duplicateBlock block _ => some block
  | .rule, duplicateRule page => some page
  | _, _ => none

def isRepeat : Defect → Bool
  | duplicatePage _ | duplicateBlock _ _ | duplicateRule _ => true
  | _ => false

theorem repeated?_eq_none {e : Defect} (h : e.isRepeat = false) (kind : IdKind) : e.repeated? kind = none := by
  cases e with
  | duplicatePage | duplicateBlock | duplicateRule => cases h
  | _ => cases kind <;> rfl

theorem exists_of_isRepeat {e : Defect} (h : e.isRepeat = true) : ∃ kind id, e.repeated? kind = some id := by
  cases e with
  | duplicatePage page => exact ⟨.page, page, rfl⟩
  | duplicateBlock block page => exact ⟨.block, block, rfl⟩
  | duplicateRule page => exact ⟨.rule, page, rfl⟩
  | _ => cases h

end Defect

theorem Action.Offends.isRepeat {d : Document} {pageId : String} {place : Nat} {a : Action} {e : Defect}
    (h : a.Offends d pageId place e) : e.isRepeat = false := by
  cases h <;> rfl

theorem Rule.Offends.isRepeat {d : Document} {r : Rule} {e : Defect} (h : r.Offends d e) : e.isRepeat = false := by
  cases h with
  | dangling => rfl
  | action _ h => exact h.isRepeat

theorem Document.pageIndex?_isNone_iff {d : Document} {id : String} :
    (d.pageIndex? id).isNone = true ↔ ∀ p ∈ d.pages, p.id ≠ id := by
  simp [pageIndex?]

theorem Document.block?_isNone_iff {d : Document} {id : String} :
    (d.block? id).isNone = true ↔ ∀ b ∈ d.blocks, b.id ≠ id := by
  rw [block?, ← blocks]
  simp

theorem Page.redirect?_eq_some_iff {p : Page} {url : String} :
    p.redirect? = some url ↔ ∃ raw, p.redirectUrl = some raw ∧ Text.trim raw ≠ "" ∧ Text.trim raw = url := by
  simp only [redirect?, Option.filter_eq_some_iff, Option.map_eq_some_iff, Bool.not_eq_true', String.isEmpty_eq_false_iff]
  constructor
  · rintro ⟨⟨raw, hraw, rfl⟩, hne⟩
    exact ⟨raw, hraw, hne, rfl⟩
  · rintro ⟨raw, hraw, hne, rfl⟩
    exact ⟨⟨raw, hraw, rfl⟩, hne⟩

theorem Action.jumpTarget?_eq_some_iff {a : Action} {id : String} :
    a.jumpTarget? = some id ↔ a.kind = .jump ∧ a.details.jump = some ⟨.page, id⟩ := by
  unfold jumpTarget?
  split
  · rename_i hkind hjump
    simp [hkind, hjump]
  · rename_i hnot
    exact iff_of_false nofun fun ⟨hkind, hjump⟩ => hnot id hkind hjump

theorem Action.hideTarget?_eq_some_iff {a : Action} {id : String} :
    a.hideTarget? = some id ↔ a.kind = .hide ∧ a.details.target = some ⟨.block, id⟩ := by
  unfold hideTarget?
  split
  · rename_i hkind htarget
    simp [hkind, htarget]
  · rename_i hnot
    exact iff_of_false nofun fun ⟨hkind, htarget⟩ => hnot id hkind htarget

theorem Document.Offends.isRepeat [Grammars] {d : Document} {e : Defect} (h : d.Offends e) : e.isRepeat = false := by
  cases h with
  | empty => rfl
  | page _ h | block _ h => cases h <;> rfl
  | rule _ h => exact h.isRepeat

namespace Checker
variable {d : Document} {p page : Page} {b : Block} {a : Action} {r : Rule} {e : Defect} {pageId : String} {place : Nat}
variable {seen pages blocks : List String}

theorem mem_reportIf {bad : Bool} {x : Defect} : e ∈ reportIf bad x ↔ bad = true ∧ e = x := by
  cases bad <;> simp [reportIf]

/-! ### What is reported besides repeated ids -/

section
variable [Grammars]

theorem hasBadRedirect_iff :
    hasBadRedirect p = true ↔ ∃ url, p.redirect? = some url ∧ Grammars.isAddress url = false := by
  unfold hasBadRedirect
  cases p.redirect? <;> simp

theorem mem_badPatterns {message : String} :
    message ∈ badPatterns b ↔ ∃ source, .pattern source ∈ b.validations ∧ Grammars.compile source = .error message := by
  simp only [badPatterns, List.mem_filterMap]
  constructor
  · rintro ⟨v, hv, hmessage⟩
    cases v with
    | pattern source =>
      simp only at hmessage
      split at hmessage
      · cases hmessage
      · rename_i hcompile
        obtain rfl := Option.some.inj hmessage
        exact ⟨source, hv, hcompile⟩
    | _ => cases hmessage
  · rintro ⟨source, hv, hcompile⟩
    exact ⟨_, hv, by simp only [hcompile]⟩

theorem mem_blockDefects (he : e.isRepeat = false) : e ∈ blockDefects page seen b ↔ b.Offends e := by
  simp only [blockDefects, List.mem_append, mem_reportIf, List.mem_map, mem_badPatterns, Bool.and_eq_true,
    Bool.not_eq_true', List.isEmpty_eq_false_iff]
  constructor
  · rintro ((⟨-, rfl⟩ | ⟨⟨hne, hkind⟩, rfl⟩) | ⟨message, ⟨source, hv, hcompile⟩, rfl⟩)
    · cases he
    · exact .validations hne hkind
    · exact .pattern hv hcompile
  · intro h
    cases h with
    | validations hne hkind => exact Or.inl (Or.inr ⟨⟨hne, hkind⟩, rfl⟩)
    | pattern hv hcompile => exact Or.inr ⟨_, ⟨_, hv, hcompile⟩, rfl⟩

theorem mem_blocksDefects (he : e.isRepeat = false) {bs : List Block} :
    e ∈ blocksDefects page seen bs ↔ ∃ b ∈ bs, b.Offends e := by
  induction bs generalizing seen with
  | nil => simp [blocksDefects]
  | cons b rest ih =>
    simp only [blocksDefects, List.mem_append, mem_blockDefects he, ih, List.mem_cons, exists_eq_or_imp]

theorem mem_pageDefects (he : e.isRepeat = false) : e ∈ pageDefects seen p ↔ p.Offends e := by
  simp only [pageDefects, List.mem_append, mem_reportIf, hasBadRedirect_iff, Page.redirect?_eq_some_iff]
  constructor
  · rintro (⟨-, rfl⟩ | ⟨⟨url, ⟨raw, hraw, hne, rfl⟩, hbad⟩, rfl⟩)
    · cases he
    · have hurl := Page.redirect?_eq_some_iff.mpr ⟨raw, hraw, hne, rfl⟩
      rw [hurl]
      exact .redirect hraw hne hbad
  · intro h
    cases h with
    | @redirect raw hraw hne hbad =>
      have hurl := Page.redirect?_eq_some_iff.mpr ⟨raw, hraw, hne, rfl⟩
      exact Or.inr ⟨⟨_, ⟨raw, hraw, hne, rfl⟩, hbad⟩, by rw [hurl]; rfl⟩

theorem mem_pagesDefects (he : e.isRepeat = false) {ps : List Page} :
    e ∈ pagesDefects pages blocks ps ↔ ∃ p ∈ ps, p.Offends e ∨ ∃ b ∈ p.blocks, b.Offends e := by
  induction ps generalizing pages blocks with
  | nil => simp [pagesDefects]
  | cons p rest ih =>
    simp only [pagesDefects, List.mem_append, mem_pageDefects he, mem_blocksDefects he, ih, List.mem_cons,
      exists_eq_or_imp]

end

theorem mem_actionDefects : e ∈ actionDefects d pageId place a ↔ a.Offends d pageId place e := by
  simp only [actionDefects, List.mem_append, mem_reportIf, Condition.isMalformed_iff]
  constructor
  · rintro ((⟨⟨raw, hpart⟩, rfl⟩ | h) | h)
    · exact .condition hpart
    · split at h
      · rename_i id htarget
        obtain ⟨hkind, htarget⟩ := Action.hideTarget?_eq_some_iff.mp htarget
        obtain ⟨hnone, rfl⟩ := mem_reportIf.mp h
        exact .hide hkind htarget (Document.block?_isNone_iff.mp hnone)
      · cases h
    · split at h
      · rename_i id htarget
        obtain ⟨hkind, htarget⟩ := Action.jumpTarget?_eq_some_iff.mp htarget
        obtain ⟨hnone, rfl⟩ := mem_reportIf.mp h
        exact .jump hkind htarget (Document.pageIndex?_isNone_iff.mp hnone)
      · cases h
  · intro h
    cases h with
    | condition hpart => exact Or.inl (Or.inl ⟨⟨_, hpart⟩, rfl⟩)
    | hide hkind htarget hnone =>
      rw [Action.hideTarget?_eq_some_iff.mpr ⟨hkind, htarget⟩]
      exact Or.inl (Or.inr (mem_reportIf.mpr ⟨Document.block?_isNone_iff.mpr hnone, rfl⟩))
    | jump hkind htarget hnone =>
      rw [Action.jumpTarget?_eq_some_iff.mpr ⟨hkind, htarget⟩]
      exact Or.inr (mem_reportIf.mpr ⟨Document.pageIndex?_isNone_iff.mpr hnone, rfl⟩)

theorem mem_ruleDefects (he : e.isRepeat = false) : e ∈ ruleDefects d seen r ↔ r.Offends d e := by
  simp only [ruleDefects, List.mem_append, mem_reportIf, Document.pageIndex?_isNone_iff, List.mem_flatMap, Prod.exists,
    List.mem_zipIdx_iff_getElem?, mem_actionDefects]
  constructor
  · rintro ((⟨hnone, rfl⟩ | ⟨-, rfl⟩) | ⟨a, place, ha, h⟩)
    · exact .dangling hnone
    · cases he
    · exact .action ha h
  · intro h
    cases h with
    | dangling hnone => exact Or.inl (Or.inl ⟨hnone, rfl⟩)
    | action ha h => exact Or.inr ⟨_, _, ha, h⟩

theorem mem_rulesDefects (he : e.isRepeat = false) {rs : List Rule} :
    e ∈ rulesDefects d seen rs ↔ ∃ r ∈ rs, r.Offends d e := by
  induction rs generalizing seen with
  | nil => simp [rulesDefects]
  | cons r rest ih => simp only [rulesDefects, List.mem_append, mem_ruleDefects he, ih, List.mem_cons, exists_eq_or_imp]

/-! ### Repeated ids -/

/-- The ids that have been seen before they come again, each time that they do. -/
def repeats : List String → List String → List String
  | _, [] => []
  | seen, id :: rest => (if seen.contains id then [id] else []) ++ repeats (id :: seen) rest

theorem repeats_append (xs ys : List String) : repeats seen (xs ++ ys) = repeats seen xs ++ repeats
    (xs.reverse ++ seen) ys := by
  induction xs generalizing seen with
  | nil => rfl
  | cons x xs ih => rw [List.cons_append, repeats, ih, repeats, List.append_assoc, List.reverse_cons, List.append_assoc]; rfl

theorem count_repeats (xs : List String) (id : String) :
    (repeats seen xs).count id = xs.count id - if id ∈ seen then 0 else 1 := by
  induction xs generalizing seen with
  | nil => simp [repeats]
  | cons x xs ih =>
    rw [repeats, List.count_append, ih, List.count_cons]
    by_cases hx : x = id
    · subst hx
      by_cases hseen : x ∈ seen <;> simp [hseen]
      omega
    · by_cases hseen : x ∈ seen <;> simp [hseen, hx, Ne.symm hx]

theorem repeats_eq_nil_iff (xs : List String) : repeats [] xs = [] ↔ xs.Nodup := by
  rw [List.nodup_iff_count, List.eq_nil_iff_forall_not_mem]
  refine forall_congr' fun id => ?_
  rw [← List.count_eq_zero, count_repeats, if_neg List.not_mem_nil]
  omega

section
variable {kind : IdKind}

theorem filterMap_reportIf (bad : Bool) (x : Defect) :
    (reportIf bad x).filterMap (Defect.repeated? kind) = if bad then (x.repeated? kind).toList else [] := by
  cases bad
  · rfl
  · simp only [reportIf, if_true, List.filterMap_cons, List.filterMap_nil]
    cases x.repeated? kind <;> rfl

theorem filterMap_eq_nil_of_isRepeat {defects : List Defect} (h : ∀ e ∈ defects, e.isRepeat = false) :
    defects.filterMap (Defect.repeated? kind) = [] :=
  List.filterMap_eq_nil_iff.mpr fun e he => Defect.repeated?_eq_none (h e he) kind

theorem filterMap_blocksDefects [Grammars] (bs : List Block) :
    (blocksDefects page seen bs).filterMap (Defect.repeated? kind) =
      if kind = .block then repeats seen (bs.map Block.id) else [] := by
  induction bs generalizing seen with
  | nil => cases kind <;> rfl
  | cons b rest ih =>
    have hpatterns : ∀ e ∈ (badPatterns b).map (Defect.invalidPattern b.id), e.isRepeat = false := by
      intro e he
      obtain ⟨message, -, rfl⟩ := List.mem_map.mp he
      rfl
    rw [blocksDefects, blockDefects, List.filterMap_append, List.filterMap_append, List.filterMap_append,
      filterMap_reportIf, filterMap_reportIf, filterMap_eq_nil_of_isRepeat hpatterns, ih]
    cases kind <;> simp [Defect.repeated?, repeats]

theorem filterMap_pagesDefects [Grammars] (ps : List Page) :
    (pagesDefects pages blocks ps).filterMap (Defect.repeated? kind) =
      if kind = .page then repeats pages (ps.map Page.id)
      else if kind = .block then repeats blocks ((ps.flatMap Page.blocks).map Block.id) else [] := by
  induction ps generalizing pages blocks with
  | nil => cases kind <;> rfl
  | cons p rest ih =>
    rw [pagesDefects, pageDefects, List.filterMap_append, List.filterMap_append, List.filterMap_append,
      filterMap_reportIf, filterMap_reportIf, filterMap_blocksDefects, ih]
    cases kind <;> simp [Defect.repeated?, repeats, repeats_append]

theorem filterMap_rulesDefects (rs : List Rule) : (rulesDefects d seen rs).filterMap (Defect.repeated? kind) =
    if kind = .rule then repeats seen (rs.map Rule.pageId) else [] := by
  induction rs generalizing seen with
  | nil => cases kind <;> rfl
  | cons r rest ih =>
    -- The actions stay one list: what they report is known by membership only.
    unfold rulesDefects ruleDefects
    generalize hactions : List.flatMap _ _ = actions
    have hnone : ∀ e ∈ actions, e.isRepeat = false := by
      subst hactions
      intro e he
      obtain ⟨x, -, hx⟩ := List.mem_flatMap.mp he
      exact (mem_actionDefects.mp hx).isRepeat
    rw [List.filterMap_append, List.filterMap_append, List.filterMap_append, filterMap_reportIf, filterMap_reportIf,
      filterMap_eq_nil_of_isRepeat hnone, ih]
    cases kind <;> simp [Defect.repeated?, repeats]

end

end Checker

namespace Document

section
variable [Grammars] {d : Document}

theorem repeated?_defects (kind : IdKind) : d.defects.filterMap (Defect.repeated? kind) = Checker.repeats []
    (d.ids kind) := by
  rw [defects, List.filterMap_append, List.filterMap_append, Checker.filterMap_reportIf, Checker.filterMap_pagesDefects,
    Checker.filterMap_rulesDefects]
  cases kind <;> simp [Defect.repeated?, ids, blocks]

theorem mem_defects_iff {e : Defect} (he : e.isRepeat = false) : e ∈ d.defects ↔ d.Offends e := by
  rw [defects, List.mem_append, List.mem_append, Checker.mem_reportIf, List.isEmpty_iff, Checker.mem_pagesDefects he,
    Checker.mem_rulesDefects he]
  constructor
  · rintro ((⟨hnil, rfl⟩ | ⟨p, hp, h | ⟨b, hb, h⟩⟩) | ⟨r, hr, h⟩)
    · exact .empty hnil
    · exact .page hp h
    · exact .block (List.mem_flatMap.mpr ⟨p, hp, hb⟩) h
    · exact .rule hr h
  · intro h
    cases h with
    | empty hnil => exact Or.inl (Or.inl ⟨hnil, rfl⟩)
    | page hp h => exact Or.inl (Or.inr ⟨_, hp, Or.inl h⟩)
    | block hb h =>
      obtain ⟨p, hp, hb⟩ := List.mem_flatMap.mp hb
      exact Or.inl (Or.inr ⟨p, hp, Or.inr ⟨_, hb, h⟩⟩)
    | rule hr h => exact Or.inr ⟨_, hr, h⟩

/-- Nothing is reported exactly if no id is repeated and there are no other offences. -/
theorem defects_eq_nil_iff : d.defects = [] ↔ (∀ kind, (d.ids kind).Nodup) ∧ ∀ e, ¬ d.Offends e := by
  simp only [← Checker.repeats_eq_nil_iff, ← repeated?_defects]
  constructor
  · intro hnil
    refine ⟨fun kind => by rw [hnil]; rfl, fun e h => ?_⟩
    have hmem := (mem_defects_iff h.isRepeat).mpr h
    rw [hnil] at hmem
    cases hmem
  · rintro ⟨hids, hnot⟩
    refine List.eq_nil_iff_forall_not_mem.mpr fun e he => ?_
    cases hrepeat : e.isRepeat with
    | false => exact hnot e ((mem_defects_iff hrepeat).mp he)
    | true =>
      obtain ⟨kind, id, hid⟩ := Defect.exists_of_isRepeat hrepeat
      have hnone := List.filterMap_eq_nil_iff.mp (hids kind) e he
      rw [hid] at hnone
      cases hnone

theorem sound_iff : d.Sound ↔ (∀ kind, (d.ids kind).Nodup) ∧ ∀ e, ¬ d.Offends e := by
  constructor
  · intro sound
    refine ⟨fun kind => ?_, fun e h => ?_⟩
    · cases kind with
      | page => exact sound.pageIds
      | block => exact sound.blockIds
      | rule => exact sound.ruleIds
    cases h with
    | empty hnil => exact sound.pages hnil
    | page hp h =>
      obtain ⟨hraw, hne, hbad⟩ := h
      exact Bool.false_ne_true (hbad.symm.trans (sound.redirects _ hp _ hraw hne))
    | block hb h =>
      cases h with
      | validations hne hkind => exact Bool.false_ne_true (hkind.symm.trans (sound.inputs _ hb hne))
      | pattern hv hcompile =>
        obtain ⟨fits, hfits⟩ := sound.patterns _ hb _ hv
        cases hfits.symm.trans hcompile
    | rule hr h =>
      cases h with
      | dangling hnone =>
        obtain ⟨p, hp, hid⟩ := sound.rulePages _ hr
        exact hnone p hp hid
      | action ha h =>
        have ha := List.mem_of_getElem? ha
        cases h with
        | condition hpart => exact sound.conditions _ hr _ ha _ hpart
        | hide hkind htarget hnone =>
          obtain ⟨b, hb, hid⟩ := sound.hides _ hr _ ha _ hkind htarget
          exact hnone b hb hid
        | jump hkind htarget hnone =>
          obtain ⟨p, hp, hid⟩ := sound.jumps _ hr _ ha _ hkind htarget
          exact hnone p hp hid
  · rintro ⟨hids, hnot⟩
    have act : ∀ r ∈ d.rules, ∀ a ∈ r.actions, ∃ place, ∀ e, ¬ a.Offends d r.pageId place e := fun r hr a ha => by
      obtain ⟨place, ha⟩ := List.mem_iff_getElem?.mp ha
      exact ⟨place, fun e h => hnot e (.rule hr (.action ha h))⟩
    exact {
      pages := fun hnil => hnot _ (.empty hnil)
      pageIds := hids .page
      blockIds := hids .block
      ruleIds := hids .rule
      redirects := fun p hp raw hraw hne => Bool.of_not_eq_false fun hbad =>
        hnot _ (.page hp (.redirect hraw hne hbad))
      inputs := fun b hb hne => Bool.of_not_eq_false fun hkind => hnot _ (.block hb (.validations hne hkind))
      patterns := fun b hb source hv => by
        cases hcompile : Grammars.compile source with
        | ok fits => exact ⟨fits, rfl⟩
        | error message => exact absurd (.block hb (.pattern hv hcompile)) (hnot _)
      rulePages := fun r hr => Classical.byContradiction fun hnone =>
        hnot _ (.rule hr (.dangling fun p hp hid => hnone ⟨p, hp, hid⟩))
      conditions := fun r hr a ha raw hpart => by
        obtain ⟨place, hact⟩ := act r hr a ha
        exact hact _ (.condition hpart)
      hides := fun r hr a ha id hkind htarget => by
        obtain ⟨place, hact⟩ := act r hr a ha
        exact Classical.byContradiction fun hnone => hact _ (.hide hkind htarget fun b hb hid => hnone ⟨b, hb, hid⟩)
      jumps := fun r hr a ha id hkind hjump => by
        obtain ⟨place, hact⟩ := act r hr a ha
        exact Classical.byContradiction fun hnone => hact _ (.jump hkind hjump fun p hp hid => hnone ⟨p, hp, hid⟩) }

theorem sound_of_defects_eq_nil (h : d.defects = []) : d.Sound := sound_iff.mpr (defects_eq_nil_iff.mp h)

/-- Nothing is reported exactly if the document is sound. Every id is reported as repeated once less often than it
occurs, and what is reported besides is just what is wrong with the document. -/
theorem defects_are_offences (d : Document) :
    (d.defects = [] ↔ d.Sound) ∧
    (∀ kind id, (d.defects.filterMap (Defect.repeated? kind)).count id = (d.ids kind).count id - 1) ∧
    ∀ e, e ∈ d.defects ∧ e.isRepeat = false ↔ d.Offends e := by
  refine ⟨defects_eq_nil_iff.trans sound_iff.symm, fun kind id => ?_, fun e => ?_⟩
  · rw [repeated?_defects, Checker.count_repeats, if_neg List.not_mem_nil]
  · constructor
    · rintro ⟨hmem, he⟩
      exact (mem_defects_iff he).mp hmem
    · intro h
      exact ⟨(mem_defects_iff h.isRepeat).mpr h, h.isRepeat⟩

end

open scoped Grammars in
/-- Ids that come again, on one page and on another, a redirect that leads nowhere and a rule for a page that is not
there. -/
example : defects {
    pages := [
      { id := "p", blocks := [⟨"q", .textInput, ∅, [.pattern "(["]⟩, ⟨"q", .dropdown, ∅, []⟩] },
      { id := "p", blocks := [⟨"q", .heading, ∅, [.required]⟩], redirectUrl := some " nowhere " }],
    rules := [
      ⟨"ghost", []⟩,
      ⟨"p", [⟨.jump, .all [.always, .malformed .null], { jump := some ⟨.page, "beyond"⟩ }⟩]⟩] } =
    [.invalidPattern "q" "unreadable pattern ([", .duplicateBlock "q" "p", .duplicatePage "p",
      .invalidRedirect "p" "nowhere", .duplicateBlock "q" "p", .validationsWithoutInput "q", .danglingRule "ghost",
      .malformedCondition "p" 0, .unknownJumpTarget "p" "beyond"] := by
  cbv

end Document

end Questionnaire
