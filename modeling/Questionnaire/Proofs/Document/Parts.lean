import Questionnaire.Document.Reading
import Questionnaire.Proofs.Document.Conditions
import Questionnaire.Proofs.Number.Whole

/-!
# What reading a document gives

The parts of a document as they are read from a value. Property bags hold values; counts and bounds are those of
values, and no two validations have one key; variables are finite; conditions are read conditions. A reader gives
such parts because its fields do, and what a field is read from is a value again.
-/

namespace Questionnaire

/-! ### Parts as they are read -/

def ActionValue.IsRead : ActionValue → Prop
  | .constant v => v.IsValue
  | .variable _ => True

def ActionDetails.IsRead (d : ActionDetails) : Prop := ∀ v, d.value = some v → v.IsRead

structure Action.IsRead (a : Action) : Prop where
  condition : a.condition.IsRead
  details : a.details.IsRead

def Rule.IsRead (r : Rule) : Prop := ∀ a ∈ r.actions, a.IsRead

/-- A count is the count of some value, and a bound is finite. -/
def Validation.IsRead : Validation → Prop
  | .required | .pattern _ => True
  | .minLength n | .maxLength n | .minChoices n | .maxChoices n => ∃ w, count? w = some n
  | .min x | .max x => x.isFinite = true

/-- Validations under keys of their own. -/
structure Validation.AreRead (vs : List Validation) : Prop where
  each : ∀ v ∈ vs, v.IsRead
  keys : (vs.map key).Nodup

structure Block.IsRead (b : Block) : Prop where
  properties : ∀ e ∈ b.properties.toList, e.2.IsValue
  validations : Validation.AreRead b.validations

def Page.IsRead (p : Page) : Prop := ∀ b ∈ p.blocks, b.IsRead

def VariableValue.IsRead : VariableValue → Prop
  | .number x => x.isFinite = true
  | .text _ => True

structure Document.IsRead (d : Document) : Prop where
  pages : ∀ p ∈ d.pages, p.IsRead
  rules : ∀ r ∈ d.rules, r.IsRead
  vars : ∀ e ∈ d.vars.toList, e.2.IsRead

/-! ### Values that are read -/

theorem isFinite_of_isValue {n : Int} (h : (Json.int n).IsValue) : (Number.ofInt n).isFinite := by
  rw [Json.IsValue, Nat.pow_eq, Nat.pow_eq] at h
  exact Number.isFinite_ofInt (by omega)

theorem Reading.actionValue?_isRead {raw : Json} {v : ActionValue} (hv : raw.IsValue)
    (h : actionValue? raw = some v) : v.IsRead := by
  unfold actionValue? at h
  split at h
  · rename_i ht
    obtain rfl := Option.some.inj h
    exact Json.isValue_of_typed? hv ht
  · obtain rfl := Option.some.inj h
    trivial
  · cases h

namespace Validation

theorem isFinite_of_number? {w : Json} {x : Float} (hw : w.IsValue) (h : w.number? = some x) : x.isFinite = true := by
  cases w with
  | int n =>
    obtain rfl := Option.some.inj h
    exact isFinite_of_isValue hw
  | float y =>
    obtain rfl := Option.some.inj h
    exact hw
  | text s => exact (Option.filter_eq_some_iff.mp h).2
  | null | bool | array | object => cases h

/-- What is read under a key is the validation of that key. -/
theorem isRead_of_ofMember? {name : String} {w : Json} {v : Validation} (hw : w.IsValue)
    (h : ofMember? name w = some v) : v.key = name ∧ v.IsRead := by
  unfold ofMember? at h
  split at h
  · cases h
  · cases h
  split at h
  case h_1 =>
    obtain rfl := Option.some.inj h
    exact ⟨rfl, trivial⟩
  case h_2 | h_3 | h_4 | h_5 =>
    obtain ⟨n, hn, rfl⟩ := Option.map_eq_some_iff.mp h
    exact ⟨rfl, w, hn⟩
  case h_6 | h_7 =>
    obtain ⟨x, hx, rfl⟩ := Option.map_eq_some_iff.mp h
    exact ⟨rfl, isFinite_of_number? hw hx⟩
  case h_8 =>
    obtain ⟨s, -, rfl⟩ := Option.map_eq_some_iff.mp h
    exact ⟨rfl, trivial⟩
  case h_9 => cases h

/-- The validations that the members of an object declare. -/
theorem areRead_filterMap {members : List (String × Json)} (hn : (Members.names members).Nodup)
    (hv : ∀ m ∈ members, m.2.IsValue) : AreRead (members.filterMap fun m => ofMember? m.1 m.2) := by
  refine ⟨fun v hmem => ?_, ?_⟩
  · obtain ⟨⟨name, w⟩, hw, h⟩ := List.mem_filterMap.mp hmem
    exact (isRead_of_ofMember? (hv _ hw) h).2
  · exact hn.sublist (Members.sublist_filterMap fun m hm v h => (isRead_of_ofMember? (hv m hm) h).1)

end Validation

/-! ### Readers -/

namespace Reading

open Draft

variable {α σ : Type} {origin : Origin} {v : Json}

/-- What a field reads is one of the parts; the others stay as they are. -/
theorem keeps_field {names : List String} {get : σ → Option α} {set : σ → α → σ} {read : Draft → Except ReadError α}
    {optional : Bool} {P : σ → Prop} (h : ∀ w s a, w.IsValue → P s → read (ofJson w) = .ok a → P (set s a)) :
    (field names get set read optional).Keeps P := by
  intro w acc acc' hw hacc hread
  obtain ⟨a, ha, rfl⟩ := ok_of_map hread
  exact h w acc a hw hacc ha

theorem required_eq {name : String} {o : Option α} {a : α} (h : required name o = .ok a) : o = some a := by
  cases o with
  | none => cases h
  | some b => exact congrArg some (Except.ok.inj h)

theorem lenient_all {read? : Json → Option α} {P : α → Prop} {o : Option α} (hv : v.IsValue)
    (hread : ∀ a, read? v = some a → P a) (h : lenient read? (ofJson v) = .ok o) : ∀ a, o = some a → P a := by
  obtain ⟨raw, hraw, h⟩ := ok_of_bind h
  obtain rfl := Except.ok.inj h
  intro a ha
  obtain ⟨w, rfl, hw⟩ := Option.bind_eq_some_iff.mp ha
  have hsame := (readAny_ofJson hv).symm.trans (readOption_ofJson hraw)
  exact hread a (Except.ok.inj hsame ▸ hw)

theorem variableValue_isRead {x : VariableValue} (hv : v.IsValue)
    (h : variableValue (ofJson v) = .ok x) : x.IsRead := by
  cases v with
  | int n =>
    obtain rfl := Except.ok.inj h
    exact isFinite_of_isValue hv
  | float x =>
    obtain rfl := Except.ok.inj h
    exact hv
  | text s =>
    obtain rfl := Except.ok.inj h
    trivial
  | null | bool | array | object =>
    obtain ⟨_, _, h⟩ := ok_of_bind h
    cases h

theorem condition_isRead {c : Condition} (hv : v.IsValue) (h : condition (ofJson v) = .ok c) : c.IsRead := by
  rw [condition, readAny_ofJson hv] at h
  obtain rfl := Except.ok.inj h
  exact Condition.ofJson_isRead hv

theorem actionDetails_isRead {d : ActionDetails} (hv : v.IsValue) (h : actionDetails origin (ofJson v) = .ok d) :
    d.IsRead := by
  obtain ⟨parts, hparts, h⟩ := ok_of_bind h
  obtain rfl := Except.ok.inj h
  refine readRecord_induction (P := fun p => ∀ a, p.value.join = some a → a.IsRead) ?_ hv hparts nofun
  simp only [List.forall_mem_cons]
  exact ⟨keeps_field fun _ _ _ _ hs _ => hs, keeps_field fun _ _ _ _ hs _ => hs,
    keeps_field fun _ _ _ hw _ ha => lenient_all hw (fun _ => actionValue?_isRead hw) ha, List.forall_mem_nil _⟩

theorem action_isRead {a : Action} (hv : v.IsValue) (h : action origin (ofJson v) = .ok a) : a.IsRead := by
  obtain ⟨parts, hparts, h⟩ := ok_of_bind h
  obtain rfl := Except.ok.inj h
  refine readRecord_induction (P := fun p : ActionParts => Action.IsRead
    ⟨p.kind.getD .unknown, p.condition.getD (.malformed .null), p.details.getD {}⟩) ?_ hv hparts ⟨⟨trivial, rfl⟩, nofun⟩
  simp only [List.forall_mem_cons]
  exact ⟨keeps_field fun _ _ _ _ hs _ => ⟨hs.condition, hs.details⟩,
    keeps_field fun _ _ _ hw hs hc => ⟨condition_isRead hw hc, hs.details⟩,
    keeps_field fun _ _ _ hw hs hd => ⟨hs.condition, actionDetails_isRead hw hd⟩, List.forall_mem_nil _⟩

theorem rule_isRead {r : Rule} (hv : v.IsValue) (h : rule origin (ofJson v) = .ok r) : r.IsRead := by
  obtain ⟨parts, hparts, h⟩ := ok_of_bind h
  obtain ⟨_, _, h⟩ := ok_of_bind h
  obtain rfl := Except.ok.inj h
  refine readRecord_induction (P := fun p => ∀ a ∈ p.actions.getD [], a.IsRead) ?_ hv hparts (List.forall_mem_nil _)
  simp only [List.forall_mem_cons]
  exact ⟨keeps_field fun _ _ _ _ hs _ => hs,
    keeps_field fun _ _ _ hw _ has => readList_all (fun _ _ => action_isRead) hw has, List.forall_mem_nil _⟩

theorem properties_isValue {m : Entries Json} (hv : v.IsValue) (h : readEntries readAny (ofJson v) = .ok m) :
    ∀ e ∈ m.toList, e.2.IsValue := by
  refine readEntries_all (fun w a hw hread => ?_) hv h
  exact Except.ok.inj ((readAny_ofJson hw).symm.trans hread) ▸ hw

theorem validations_areRead {vs : List Validation} (hv : v.IsValue) (h : validations (ofJson v) = .ok vs) :
    Validation.AreRead vs := by
  obtain ⟨raw, hraw, h⟩ := ok_of_bind h
  obtain rfl := Except.ok.inj h
  refine Validation.areRead_filterMap (raw.getD ∅).nodup ?_
  cases raw with
  | none => exact List.forall_mem_nil _
  | some m => exact properties_isValue hv (readOption_ofJson hraw)

theorem block_isRead {b : Block} (hv : v.IsValue) (h : block origin (ofJson v) = .ok b) : b.IsRead := by
  obtain ⟨parts, hparts, h⟩ := ok_of_bind h
  obtain ⟨id, _, h⟩ := ok_of_bind h
  obtain ⟨kind, _, h⟩ := ok_of_bind h
  obtain rfl := Except.ok.inj h
  refine readRecord_induction (P := fun p : BlockParts => Block.IsRead
    ⟨id, kind, p.properties.getD ∅, p.validations.getD []⟩) ?_ hv hparts
    ⟨List.forall_mem_nil _, List.forall_mem_nil _, List.nodup_nil⟩
  simp only [List.forall_mem_cons]
  exact ⟨keeps_field fun _ _ _ _ hs _ => ⟨hs.properties, hs.validations⟩,
    keeps_field fun _ _ _ _ hs _ => ⟨hs.properties, hs.validations⟩,
    keeps_field fun _ _ _ hw hs hm => ⟨properties_isValue hw hm, hs.validations⟩,
    keeps_field fun _ _ _ hw hs hvs => ⟨hs.properties, validations_areRead hw hvs⟩, List.forall_mem_nil _⟩

theorem page_isRead {p : Page} (hv : v.IsValue) (h : page origin (ofJson v) = .ok p) : p.IsRead := by
  obtain ⟨parts, hparts, h⟩ := ok_of_bind h
  obtain ⟨_, _, h⟩ := ok_of_bind h
  obtain rfl := Except.ok.inj h
  refine readRecord_induction (P := fun p => ∀ b ∈ p.blocks.getD [], b.IsRead) ?_ hv hparts (List.forall_mem_nil _)
  simp only [List.forall_mem_cons]
  exact ⟨keeps_field fun _ _ _ _ hs _ => hs, keeps_field fun _ _ _ _ hs _ => hs,
    keeps_field fun _ _ _ hw _ hbs => readList_all (fun _ _ => block_isRead) hw hbs,
    keeps_field fun _ _ _ _ hs _ => hs, List.forall_mem_nil _⟩

/-- A document that is read from a value. -/
theorem document_isRead {d : Document} (hv : v.IsValue) (h : document origin (ofJson v) = .ok d) : d.IsRead := by
  obtain ⟨parts, hparts, h⟩ := ok_of_bind h
  obtain ⟨pages, hpages, h⟩ := ok_of_bind h
  obtain rfl := Except.ok.inj h
  have hread := readRecord_induction (P := fun p : DocumentParts => Document.IsRead
    ⟨"", .form, p.pages.getD [], p.rules.getD [], p.vars.getD ∅⟩) ?_ hv hparts
    ⟨List.forall_mem_nil _, List.forall_mem_nil _, List.forall_mem_nil _⟩
  · rw [required_eq hpages] at hread
    exact ⟨hread.pages, hread.rules, hread.vars⟩
  · simp only [List.forall_mem_cons]
    exact ⟨keeps_field fun _ _ _ _ hs _ => ⟨hs.pages, hs.rules, hs.vars⟩,
      keeps_field fun _ _ _ _ hs _ => ⟨hs.pages, hs.rules, hs.vars⟩,
      keeps_field fun _ _ _ hw hs hps => ⟨readList_all (fun _ _ => page_isRead) hw hps, hs.rules, hs.vars⟩,
      keeps_field fun _ _ _ hw hs hrs => ⟨hs.pages, readList_all (fun _ _ => rule_isRead) hw hrs, hs.vars⟩,
      keeps_field fun _ _ _ hw hs hvars =>
        ⟨hs.pages, hs.rules, readEntries_all (fun _ _ => variableValue_isRead) hw hvars⟩, List.forall_mem_nil _⟩

end Reading

end Questionnaire
