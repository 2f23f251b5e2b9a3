import Questionnaire.Proofs.Document.Defects
import Questionnaire.Proofs.Rule.Sequence

/-!
# What a rule reads and writes

A rule looks at the answers and variables that its conditions and the right sides of its arithmetic name, and it writes
the targets of its arithmetic. Nothing else bears on what it does, and nothing else is changed by it.
`Rule.reads_and_writes_what_it_names` says both, with what a write leaves.
-/

namespace Questionnaire

namespace Condition

variable {answers answers' : Answers} {vars vars' : Variables}

/-- The operand of a comparison in the condition, at any depth. -/
def Mentions (o : Operand) (c : Condition) : Prop := ∃ op l r, Part (.compare op l r) c ∧ (o = l ∨ o = r)

mutual

/-- A condition is judged by what its operands resolve to. -/
theorem holds_congr : ∀ c : Condition,
    (∀ o, Mentions o c → o.resolve answers vars = o.resolve answers' vars') →
      c.holds answers vars = c.holds answers' vars'
  | .always, _ | .malformed _, _ => rfl
  | .compare op l r, h => by
    rw [holds, holds, h l ⟨op, l, r, .refl, Or.inl rfl⟩, h r ⟨op, l, r, .refl, Or.inr rfl⟩]
  | .all parts, h => by
    rw [holds, holds]
    refine allHold_congr parts fun c hc o ho => h o ?_
    obtain ⟨op, l, r, hpart, hside⟩ := ho
    exact ⟨op, l, r, .all hc hpart, hside⟩
  | .any parts, h => by
    rw [holds, holds]
    refine anyHolds_congr parts fun c hc o ho => h o ?_
    obtain ⟨op, l, r, hpart, hside⟩ := ho
    exact ⟨op, l, r, .any hc hpart, hside⟩

theorem allHold_congr : ∀ parts : List Condition,
    (∀ c ∈ parts, ∀ o, Mentions o c → o.resolve answers vars = o.resolve answers' vars') →
      allHold answers vars parts = allHold answers' vars' parts
  | [], _ => rfl
  | c :: rest, h => by
    have hfirst := holds_congr c (h c List.mem_cons_self)
    have hrest := allHold_congr rest fun c' hc' => h c' (List.mem_cons_of_mem c hc')
    rw [allHold, allHold, hfirst, hrest]

theorem anyHolds_congr : ∀ parts : List Condition,
    (∀ c ∈ parts, ∀ o, Mentions o c → o.resolve answers vars = o.resolve answers' vars') →
      anyHolds answers vars parts = anyHolds answers' vars' parts
  | [], _ => rfl
  | c :: rest, h => by
    have hfirst := holds_congr c (h c List.mem_cons_self)
    have hrest := anyHolds_congr rest fun c' hc' => h c' (List.mem_cons_of_mem c hc')
    rw [anyHolds, anyHolds, hfirst, hrest]

end

end Condition

/-! ### Names -/

def ActionKind.isArithmetic : ActionKind → Bool
  | .add | .subtract | .multiply | .divide | .set => true
  | .jump | .hide | .unknown => false

namespace Action

/-- The name of the variable that an arithmetic action is about. -/
def Targets (a : Action) (name : String) : Prop :=
  a.kind.isArithmetic = true ∧ a.details.target = some ⟨.variable, name⟩

/-- The variables that an action names. -/
inductive Names (a : Action) (name : String) : Prop
  | asked : a.condition.Mentions (.variable name) → a.Names name
  | operand : a.kind.isArithmetic = true → a.details.value = some (.variable name) → a.Names name
  | target : a.Targets name → a.Names name

end Action

namespace Rule

/-- A condition of the rule asks for the answer to the block. -/
def Asks (r : Rule) (id : String) : Prop := ∃ a ∈ r.actions, a.condition.Mentions (.block id)

def Names (r : Rule) (name : String) : Prop := ∃ a ∈ r.actions, a.Names name

def Targets (r : Rule) (name : String) : Prop := ∃ a ∈ r.actions, a.Targets name

end Rule

/-! ### What an action writes -/

theorem Variables.number_eq_of_get? {vars vars' : Variables} {name : String} (h : vars.get? name = vars'.get? name) :
    vars.number name = vars'.number name := by
  rw [number, number, h]

theorem ActionKind.isArithmetic_of_apply? {kind : ActionKind} {current operand x : Float}
    (h : kind.apply? current operand = some x) : kind.isArithmetic = true := by
  cases kind with
  | jump | hide | unknown => cases h
  | _ => rfl

namespace Action

variable {a : Action} {answers answers' : Answers} {vars vars' : Variables} {name : String} {o o' : Outcome}

/-- The variable that an action sets when it fires, with the number. -/
def write? (a : Action) (vars : Variables) : Option (String × Float) :=
  match a.details.target, a.details.value with
  | some ⟨.variable, name⟩, some operand =>
    Option.map (fun x => (name, x)) <| a.kind.apply? (vars.number name) (operand.number vars)
  | _, _ => none

theorem write?_eq_some_iff {x : Float} :
    a.write? vars = some (name, x) ↔ a.details.target = some ⟨.variable, name⟩ ∧
      ∃ operand, a.details.value = some operand ∧
        a.kind.apply? (vars.number name) (operand.number vars) = some x := by
  unfold write?
  split
  · rename_i target operand htarget hvalue
    rw [htarget, hvalue, Option.map_eq_some_iff]
    constructor
    · rintro ⟨y, hy, heq⟩
      obtain ⟨rfl, rfl⟩ := Prod.mk.inj heq
      exact ⟨rfl, operand, rfl, hy⟩
    · rintro ⟨hname, operand', hoperand, hx⟩
      cases hname
      cases hoperand
      exact ⟨x, hx, rfl⟩
  · rename_i hnot
    refine iff_of_false (fun h => nomatch h) ?_
    rintro ⟨htarget, operand, hvalue, -⟩
    exact hnot name operand htarget hvalue

theorem compute_of_write? {x : Float} (h : a.write? vars = some (name, x)) :
    a.compute vars = vars.setNumber name x := by
  obtain ⟨htarget, operand, hvalue, hx⟩ := write?_eq_some_iff.mp h
  unfold compute
  rw [htarget, hvalue]
  simp only [hx]

theorem compute_of_write?_eq_none (h : a.write? vars = none) : a.compute vars = vars := by
  unfold compute
  split
  · rename_i target operand htarget hvalue
    cases hx : a.kind.apply? (vars.number target) (operand.number vars) with
    | none => rfl
    | some x =>
      have hwrite : a.write? vars = some (target, x) := write?_eq_some_iff.mpr ⟨htarget, operand, hvalue, hx⟩
      rw [h] at hwrite
      cases hwrite
  · rfl

theorem targets_of_write? {x : Float} (h : a.write? vars = some (name, x)) : a.Targets name := by
  obtain ⟨htarget, operand, -, hx⟩ := write?_eq_some_iff.mp h
  exact ⟨ActionKind.isArithmetic_of_apply? hx, htarget⟩

theorem write?_congr (h : ∀ name, a.Names name → vars'.get? name = vars.get? name) :
    a.write? vars' = a.write? vars := by
  -- What is written with some variables is written with any that agree; the converse is the same with both exchanged.
  have hwrite : ∀ {us us' : Variables}, (∀ name, a.Names name → us'.get? name = us.get? name) →
      ∀ w, a.write? us = some w → a.write? us' = some w := by
    intro us us' hagree w hw
    obtain ⟨name, x⟩ := w
    obtain ⟨htarget, operand, hvalue, hx⟩ := write?_eq_some_iff.mp hw
    have harith := ActionKind.isArithmetic_of_apply? hx
    have hcurrent := Variables.number_eq_of_get? (hagree name (.target ⟨harith, htarget⟩))
    have hoperand : operand.number us' = operand.number us := by
      rcases operand with v | other
      · rfl
      · exact Variables.number_eq_of_get? (hagree other (.operand harith hvalue))
    exact write?_eq_some_iff.mpr ⟨htarget, operand, hvalue, by rw [hcurrent, hoperand, hx]⟩
  apply Option.ext
  intro w
  exact ⟨hwrite (fun name hname => (h name hname).symm) w, hwrite h w⟩

theorem get?_fire (a : Action) (o : Outcome) (name : String) :
    (a.fire o).vars.get? name =
      (a.write? o.vars).elim (o.vars.get? name) fun w =>
        if w.1 = name then some (.number w.2) else o.vars.get? name := by
  have hvars : (a.fire o).vars = a.compute o.vars := rfl
  rw [hvars]
  cases hwrite : a.write? o.vars with
  | none => rw [compute_of_write?_eq_none hwrite, Option.elim_none]
  | some w => rw [compute_of_write? hwrite, Variables.setNumber, Entries.get?_insert, Option.elim_some]

/-- An action leaves a variable as it was, or it writes a number into it. -/
theorem get?_step (a : Action) (answers : Answers) (o : Outcome) (name : String) :
    (a.step answers o).vars.get? name = o.vars.get? name ∨
      ∃ x, a.write? o.vars = some (name, x) ∧ (a.step answers o).vars.get? name = some (.number x) := by
  unfold step
  split
  · have hget := get?_fire a o name
    cases hwrite : a.write? o.vars with
    | none =>
      rw [hwrite, Option.elim_none] at hget
      exact Or.inl hget
    | some w =>
      obtain ⟨target, x⟩ := w
      rw [hwrite, Option.elim_some] at hget
      by_cases hname : target = name
      · rw [if_pos hname] at hget
        exact Or.inr ⟨x, by rw [hname], hget⟩
      · rw [if_neg hname] at hget
        exact Or.inl hget
  · exact Or.inl rfl

/-- A division by what reads as zero leaves every reading as it was: where its target is a text or is not there, that
becomes the number that it has been read as. -/
theorem number_step_of_divide (hkind : a.kind = .divide) {operand : ActionValue}
    (hvalue : a.details.value = some operand) (hzero : (operand.number o.vars == 0) = true) (answers : Answers)
    (name : String) : (a.step answers o).vars.number name = o.vars.number name := by
  rcases get?_step a answers o name with hkept | ⟨x, hwrite, hget⟩
  · exact Variables.number_eq_of_get? hkept
  · have hsame : x = o.vars.number name := by
      obtain ⟨-, operand', hoperand, hx⟩ := write?_eq_some_iff.mp hwrite
      rw [hvalue] at hoperand
      cases hoperand
      rw [hkind, ActionKind.apply?, if_pos hzero] at hx
      exact (Option.some.inj hx).symm
    rw [Variables.number, hget, hsame]
    rfl

end Action

/-! ### Two runs side by side -/

/-- Two outcomes are the same but for the variables without the property. -/
structure Outcome.Agree (P : String → Prop) (o' o : Outcome) : Prop where
  next : o'.next = o.next
  hidden : o'.hidden = o.hidden
  vars : ∀ name, P name → o'.vars.get? name = o.vars.get? name

section
variable {r : Rule} {a : Action} {answers answers' : Answers} {vars vars' : Variables} {o o' : Outcome}

theorem Outcome.Agree.fire (h : o'.Agree r.Names o) (ha : a ∈ r.actions) : (a.fire o').Agree r.Names (a.fire o) where
  next := by simp only [Action.fire, h.next]
  hidden := by simp only [Action.fire, h.hidden]
  vars name hname := by
    have hwrite : a.write? o'.vars = a.write? o.vars :=
      Action.write?_congr fun other hother => h.vars other ⟨a, ha, hother⟩
    rw [Action.get?_fire, Action.get?_fire, hwrite, h.vars name hname]

theorem Outcome.Agree.step (hanswers : ∀ id, r.Asks id → answers'.get? id = answers.get? id) (h : o'.Agree r.Names o)
    (ha : a ∈ r.actions) : (a.step answers' o').Agree r.Names (a.step answers o) := by
  have hholds : a.condition.holds answers' o'.vars = a.condition.holds answers o.vars := by
    refine Condition.holds_congr a.condition fun operand hmentions => ?_
    rcases operand with id | name | v
    · exact hanswers id ⟨a, ha, hmentions⟩
    · exact congrArg (Option.map VariableValue.toJson) (h.vars name ⟨a, ha, .asked hmentions⟩)
    · rfl
  unfold Action.step
  rw [hholds]
  by_cases hfires : a.condition.holds answers o.vars = true
  · rw [if_pos hfires, if_pos hfires]
    exact h.fire ha
  · rw [if_neg hfires, if_neg hfires]
    exact h

/-- Two runs that start alike, as far as the rule looks, stay so. -/
theorem Outcome.agree_ofActions (hanswers : ∀ id, r.Asks id → answers'.get? id = answers.get? id)
    (hvars : ∀ name, r.Names name → vars'.get? name = vars.get? name) (actions : List Action)
    (hactions : ∀ a ∈ actions, a ∈ r.actions) :
    (ofActions actions answers' vars').Agree r.Names (ofActions actions answers vars) := by
  induction actions using List.reverseRecOn with
  | nil => exact ⟨rfl, rfl, hvars⟩
  | append_singleton actions a ih =>
    have hearlier := ih fun b hb => hactions b (List.mem_append_left _ hb)
    rw [ofActions_concat, ofActions_concat]
    exact hearlier.step hanswers (hactions a (List.mem_append_right _ List.mem_cons_self))

end

/-! ### One run -/

/-- A run leaves a variable as it was, or it is the target of an action and now holds a number. -/
theorem Outcome.get?_ofActions (actions : List Action) (answers : Answers) (vars : Variables) (name : String) :
    (ofActions actions answers vars).vars.get? name = vars.get? name ∨
      (∃ a ∈ actions, a.Targets name) ∧ ∃ x, (ofActions actions answers vars).vars.get? name = some (.number x) := by
  induction actions using List.reverseRecOn with
  | nil => exact Or.inl rfl
  | append_singleton actions a ih =>
    rw [ofActions_concat]
    rcases a.get?_step answers (ofActions actions answers vars) name with hkept | ⟨x, hwrite, hget⟩
    · rw [hkept]
      refine ih.imp_right ?_
      rintro ⟨⟨b, hb, htargets⟩, hnumber⟩
      exact ⟨⟨b, List.mem_append_left _ hb, htargets⟩, hnumber⟩
    · have htargets := Action.targets_of_write? hwrite
      exact Or.inr ⟨⟨a, List.mem_append_right _ List.mem_cons_self, htargets⟩, x, hget⟩

/-- **A rule reads and writes what it names.** From answers and variables that agree on everything that it names it
jumps to the same page, hides the same blocks and leaves variables that agree on what it names. A variable that none
of its arithmetic is about is left as it was, there or not; none is removed, and one that is changed holds a number.
A division by what reads as zero, wherever it stands, leaves what every variable reads as. -/
theorem Rule.reads_and_writes_what_it_names (r : Rule) (answers : Answers) (vars : Variables) :
    (∀ (answers' : Answers) (vars' : Variables), (∀ id, r.Asks id → answers'.get? id = answers.get? id) →
      (∀ name, r.Names name → vars'.get? name = vars.get? name) →
      (r.outcome answers' vars').next = (r.outcome answers vars).next ∧
        (r.outcome answers' vars').hidden = (r.outcome answers vars).hidden ∧
        ∀ name, r.Names name → (r.outcome answers' vars').vars.get? name = (r.outcome answers vars).vars.get? name) ∧
    (∀ name, ¬ r.Targets name → (r.outcome answers vars).vars.get? name = vars.get? name) ∧
    (∀ name, (vars.get? name).isSome = true → ((r.outcome answers vars).vars.get? name).isSome = true) ∧
    (∀ name, (r.outcome answers vars).vars.get? name ≠ vars.get? name →
      ∃ x, (r.outcome answers vars).vars.get? name = some (.number x)) ∧
    ∀ before a after operand, r.actions = before ++ a :: after → a.kind = .divide → a.details.value = some operand →
      let now := (Outcome.ofActions before answers vars).vars
      (operand.number now == 0) = true →
        ∀ name, (Outcome.ofActions (before ++ [a]) answers vars).vars.number name = now.number name := by
  have hrun := Outcome.get?_ofActions r.actions answers vars
  refine ⟨?_, ?_, ?_, ?_, ?_⟩
  · intro answers' vars' hanswers hvars
    have hagree := Outcome.agree_ofActions hanswers hvars r.actions fun a ha => ha
    exact ⟨hagree.next, hagree.hidden, hagree.vars⟩
  · intro name hname
    rcases hrun name with hkept | ⟨htargets, -⟩
    · exact hkept
    · exact absurd htargets hname
  · intro name hname
    rcases hrun name with hkept | ⟨-, x, hnumber⟩
    · rwa [outcome, hkept]
    · rw [outcome, hnumber]
      rfl
  · intro name hname
    rcases hrun name with hkept | ⟨-, hnumber⟩
    · exact absurd hkept hname
    · exact hnumber
  · intro before a after operand _ hkind hvalue now hzero name
    rw [Outcome.ofActions_concat]
    exact Action.number_step_of_divide hkind hvalue hzero answers name

/-- Once there is a name, the points are divided among the people. -/
def sharing : Rule where
  pageId := "first"
  actions :=
    [{ kind := .divide
       condition := .all [.compare .neq (.block "name") (.constant .null)]
       details := { target := some ⟨.variable, "points"⟩, value := some (.variable "people") } }]

theorem sharing_names {name : String} (h : sharing.Names name) : name = "points" ∨ name = "people" := by
  obtain ⟨a, ha, hname⟩ := h
  cases List.mem_singleton.mp ha
  cases hname with
  | asked hmentions =>
    obtain ⟨op, l, r, hpart, hside⟩ := hmentions
    cases hpart with
    | all hc hpart =>
      cases List.mem_singleton.mp hc
      cases hpart
      rcases hside with hside | hside <;> cases hside
  | operand _ hvalue =>
    cases hvalue
    exact Or.inr rfl
  | target htarget =>
    cases htarget.2
    exact Or.inl rfl

/-- Nobody is there to share with, and the points are a text. They become the number that the text writes, whatever the
color, and the color stays. -/
theorem sharing_reads_and_writes :
    let answers : Answers := Entries.ofList [("name", .text "Ada")]
    let vars : Variables := Entries.ofList [("points", .text "8")]
    let colored := vars.insert "color" (.text "red")
    (∀ name, sharing.Names name → colored.get? name = vars.get? name) ∧
      (sharing.outcome answers colored).vars.get? "points" = (sharing.outcome answers vars).vars.get? "points" ∧
      (sharing.outcome answers colored).vars.get? "color" = some (.text "red") ∧
      (sharing.outcome answers vars).vars.number "points" = vars.number "points" ∧
      ∃ x, (sharing.outcome answers vars).vars.get? "points" = some (.number x) := by
  intro answers vars colored
  obtain ⟨hcongr, -, -, hnumber, hdivide⟩ := Rule.reads_and_writes_what_it_names sharing answers vars
  obtain ⟨-, hframe, -, -, -⟩ := Rule.reads_and_writes_what_it_names sharing answers colored
  have hagree : ∀ name, sharing.Names name → colored.get? name = vars.get? name := by
    intro name hname
    have hne : "color" ≠ name := by
      rcases sharing_names hname with rfl | rfl <;> decide
    rw [Entries.get?_insert, if_neg hne]
  refine ⟨hagree, ?_, ?_, ?_, ?_⟩
  · refine (hcongr answers colored (fun _ _ => rfl) hagree).2.2 "points" ?_
    exact ⟨_, List.mem_cons_self, .target ⟨rfl, rfl⟩⟩
  · refine hframe "color" ?_
    rintro ⟨a, ha, htargets⟩
    rcases sharing_names ⟨a, ha, .target htargets⟩ with h | h <;> exact absurd h (by decide)
  · exact hdivide [] _ [] _ rfl rfl rfl (by decide +kernel) "points"
  · refine hnumber "points" fun hkept => ?_
    have hchanged : ((sharing.outcome answers vars).vars.get? "points").any (fun v => v matches .number _) = true := by
      decide +kernel
    rw [hkept] at hchanged
    cases hchanged

end Questionnaire
