import Questionnaire.Document.Writing
import Questionnaire.Proofs.Document.Parts

/-!
# Documents written and read again

A document that is read from a value reads back from what it is written as. Each part is written as a record whose
fields read the parts again, in the order of the fields; what is left out is what a field that is not there stands for.
The counts of validations go through a float, which holds each of them exactly, the largest one apart: that one is
clipped to itself.
-/

namespace Questionnaire

open Draft

/-! ### Names -/

theorem BlockKind.ofName_name (k : BlockKind) : ofName k.name = k := by cases k <;> rfl

theorem DocumentKind.ofName?_name (k : DocumentKind) : ofName? k.name = some k := by cases k <;> rfl

theorem Reading.referenceKind_name (k : ReferenceKind) : referenceKind k.name = .ok k := by cases k <;> rfl

theorem Reading.actionKind_name (k : ActionKind) : actionKind k.name = .ok k := by cases k <;> rfl

theorem Reading.documentKind_name (k : DocumentKind) : documentKind k.name = .ok k := by
  rw [documentKind, DocumentKind.ofName?_name]

/-! ### Values that are written -/

theorem Json.ofFloat_of_isFinite {x : Float} (h : x.isFinite = true) : ofFloat x = .float x := if_pos h

theorem Json.isValue_ofFloat (x : Float) : (ofFloat x).IsValue := by
  unfold ofFloat
  split
  · assumption
  · trivial

theorem Json.isValue_map {α : Type} {write : α → Json} {as : List α} (h : ∀ a ∈ as, (write a).IsValue) :
    (Json.array (as.map write)).IsValue :=
  isValue_array.mpr (List.forall_mem_map.mpr h)

/-- An object of members that may be left out. -/
theorem Json.isValue_ofMembers {members : List (String × Option Json)} (hn : (members.map Prod.fst).Nodup)
    (hv : ∀ m ∈ members, ∀ v, m.2 = some v → v.IsValue) : (ofMembers members).IsValue := by
  refine isValue_object.mpr ⟨hn.sublist (Members.sublist_filterMap fun m _ e he => ?_), fun m hm => ?_⟩
  · obtain ⟨v, -, rfl⟩ := Option.map_eq_some_iff.mp he
    rfl
  · obtain ⟨⟨name, o⟩, hmem, h⟩ := List.mem_filterMap.mp hm
    obtain ⟨v, ho, rfl⟩ := Option.map_eq_some_iff.mp h
    exact hv _ hmem v ho

/-! ### Validations -/

namespace Validation

/-- The largest count is rounded up by a float, and clipped to itself. -/
theorem maxCount_le_truncate : maxCount ≤ Number.truncate (Number.ofInt maxCount) := by
  decide +kernel

theorem clip_le (x : Float) : Nat.min (Number.truncate x) maxCount ≤ 2 ^ 64 :=
  (Nat.min_le_right _ _).trans (by rw [maxCount, Nat.pow_eq]; exact Nat.sub_le _ _)

/-- A count goes through a float and is the same again. -/
theorem clip_ofInt_clip (x : Float) :
    Nat.min (Number.truncate (Number.ofInt (Nat.min (Number.truncate x) maxCount))) maxCount
      = Nat.min (Number.truncate x) maxCount := by
  rcases Nat.le_total (Number.truncate x) maxCount with hx | hx
  · have hmin : Nat.min (Number.truncate x) maxCount = Number.truncate x := Nat.min_eq_left hx
    have hle := clip_le x
    rw [hmin] at hle ⊢
    rw [Number.truncate_ofInt (Number.isExact_truncate x) hle, hmin]
  · have hmin : Nat.min (Number.truncate x) maxCount = maxCount := Nat.min_eq_right hx
    rw [hmin]
    exact Nat.min_eq_right maxCount_le_truncate

/-- A count is again the count of the number that it is written as. -/
theorem count?_of_count? {w : Json} {n : Nat} (h : count? w = some n) : count? (.int n) = some n := by
  obtain ⟨x, -, rfl⟩ := Option.map_eq_some_iff.mp h
  have hpositive : (some (Number.ofInt (Nat.min (Number.truncate x) maxCount))).filter
      (fun y => decide ((0.0 : Float) ≤ y)) = some (Number.ofInt (Nat.min (Number.truncate x) maxCount)) :=
    Option.filter_eq_some_iff.mpr ⟨rfl, decide_eq_true (Number.zero_le_ofInt (clip_le x))⟩
  rw [count?, Json.number?, hpositive, Option.map_some, clip_ofInt_clip]

theorem count_le_of_count? {w : Json} {n : Nat} (h : count? w = some n) : n ≤ maxCount := by
  obtain ⟨x, -, rfl⟩ := Option.map_eq_some_iff.mp h
  exact Nat.min_le_right _ _

theorem ofMember?_parameter {v : Validation} (h : v.IsRead) : ofMember? v.key v.parameter = some v := by
  cases v with
  | required | pattern => rfl
  | minLength | maxLength | minChoices | maxChoices =>
    obtain ⟨w, hw⟩ := h
    exact congrArg (Option.map _) (count?_of_count? hw)
  | min x | max x =>
    rw [parameter, Json.ofFloat_of_isFinite h]
    rfl

theorem isValue_count {n : Nat} (h : n ≤ maxCount) : (Json.int n).IsValue := by
  rw [maxCount, Nat.pow_eq] at h
  rw [Json.IsValue, Nat.pow_eq, Nat.pow_eq]
  omega

theorem isValue_parameter {v : Validation} (h : v.IsRead) : v.parameter.IsValue := by
  cases v with
  | required | pattern => trivial
  | minLength | maxLength | minChoices | maxChoices =>
    obtain ⟨w, hw⟩ := h
    exact isValue_count (count_le_of_count? hw)
  | min x | max x => exact Json.isValue_ofFloat x

variable {vs : List Validation}

theorem AreRead.nodup (h : AreRead vs) : (Members.names (vs.map fun v => (v.key, v.parameter))).Nodup := by
  rw [Members.names, List.map_map]
  exact h.keys

/-- Under keys of their own all validations are written, in their order. -/
theorem AreRead.toJson_eq (h : AreRead vs) :
    validationsToJson vs = .object (vs.map fun v => (v.key, v.parameter)) := by
  rw [validationsToJson, Members.ofList_of_nodup h.nodup]

theorem AreRead.isValue_parameters (h : AreRead vs) : ∀ e ∈ vs.map fun v => (v.key, v.parameter), e.2.IsValue :=
  List.forall_mem_map.mpr fun v hv => isValue_parameter (h.each v hv)

theorem AreRead.isValue_toJson (h : AreRead vs) : (validationsToJson vs).IsValue :=
  h.toJson_eq ▸ Json.isValue_object.mpr ⟨h.nodup, h.isValue_parameters⟩

end Validation

namespace Reading

/-! ### Records that are written -/

section
variable {α σ : Type} {origin : Origin} {shape : Shape σ} {names : List String} {get : σ → Option α} {set : σ → α → σ}
  {read : Draft → Except ReadError α} {optional : Bool} {name : String} {s r : σ}

/-- A field that is written is read into the parts, and the rest of the members after it. -/
theorem fill_field {d : Draft} {a : α} {rest : List (Draft × Draft)}
    (hfind : shape.find? name = some (field names get set read optional)) (hfresh : (get s).isSome = false)
    (hread : read d = .ok a) (hrest : fillByName shape rest (set s a) = .ok r) :
    fillByName shape ((.text name, d) :: rest) s = .ok r :=
  (fillByName_field hfind hfresh (congrArg (set s <$> ·) hread)).trans hrest

/-- A field that is written where there is something to write. What is left out stays as it is. -/
theorem fill_optional {β : Type} {o : Option β} {write : β → Json} {t : σ} {rest : List (String × Option Json)}
    (hfind : shape.find? name = some (field names get set read optional)) (hfresh : (get s).isSome = false)
    (hnone : o = none → t = s) (hsome : ∀ b, o = some b → ∃ a, read (ofJson (write b)) = .ok a ∧ t = set s a)
    (hrest : fillByName shape (ofMembers (rest.filterMap fun m => m.2.map (m.1, ·))) t = .ok r) :
    fillByName shape (ofMembers (((name, o.map write) :: rest).filterMap fun m => m.2.map (m.1, ·))) s = .ok r := by
  cases o with
  | none =>
    rw [hnone rfl] at hrest
    exact hrest
  | some b =>
    obtain ⟨a, hread, hset⟩ := hsome b rfl
    rw [hset] at hrest
    exact fill_field hfind hfresh hread hrest

end

/-! ### Rules -/

section
variable (origin : Origin)

theorem reference_toJson (r : Reference) : reference origin (ofJson r.toJson) = .ok r := by
  refine (bind_ok (readRecord_object (r := ⟨some r.kind, some r.id⟩) ?_) _).trans rfl
  exact fill_field rfl rfl (referenceKind_name r.kind) (fill_field rfl rfl rfl rfl)

theorem lenient_withType {α : Type} {read? : Json → Option α} {type : String} {v : Json} (hv : v.IsValue) :
    lenient read? (ofJson (.withType type v)) = .ok (read? (.withType type v)) :=
  (bind_ok (congrArg (some <$> ·) (readAny_ofJson (Json.isValue_withType hv))) _).trans rfl

theorem lenient_reference (r : Reference) : lenient reference? (ofJson r.toJson) = .ok (some r) := by
  refine (lenient_withType (v := .text _) trivial).trans (congrArg Except.ok ?_)
  exact congrArg Except.toOption (reference_toJson .value r)

theorem lenient_actionValue {v : ActionValue} (h : v.IsRead) : lenient actionValue? (ofJson v.toJson) = .ok
    (some v) := by
  cases v with
  | constant w => exact lenient_withType h
  | _ => exact lenient_withType (v := .text _) trivial

theorem actionDetails_toJson {d : ActionDetails} (h : d.IsRead) : actionDetails origin (ofJson d.toJson) = .ok d := by
  obtain ⟨jump, target, value⟩ := d
  refine (bind_ok (readRecord_object (r := ⟨jump.map some, target.map some, value.map some⟩) ?_) _).trans ?_
  · refine fill_optional (t := ⟨jump.map some, none, none⟩) rfl rfl ?_ ?_
      (fill_optional (t := ⟨jump.map some, target.map some, none⟩) rfl rfl ?_ ?_
        (fill_optional (t := ⟨jump.map some, target.map some, value.map some⟩) rfl rfl ?_ ?_ rfl))
    · rintro rfl
      rfl
    · rintro r rfl
      exact ⟨some r, lenient_reference r, rfl⟩
    · rintro rfl
      rfl
    · rintro r rfl
      exact ⟨some r, lenient_reference r, rfl⟩
    · rintro rfl
      rfl
    · rintro v rfl
      exact ⟨some v, lenient_actionValue (h v rfl), rfl⟩
  · cases jump <;> cases target <;> cases value <;> rfl

theorem condition_toJson {c : Condition} (h : c.IsRead) : condition (ofJson c.toJson) = .ok c := by
  rw [condition, readAny_ofJson (Condition.isValue_toJson h)]
  exact congrArg Except.ok (Condition.ofJson_toJson h)

theorem action_toJson {a : Action} (h : a.IsRead) : action origin (ofJson a.toJson) = .ok a := by
  refine (bind_ok (readRecord_object (r := ⟨some a.kind, some a.condition, some a.details⟩) ?_) _).trans rfl
  exact fill_field rfl rfl (actionKind_name a.kind) (fill_field rfl rfl (condition_toJson h.condition)
    (fill_field rfl rfl (actionDetails_toJson origin h.details) rfl))

theorem rule_toJson {r : Rule} (h : r.IsRead) : rule origin (ofJson r.toJson) = .ok r := by
  refine (bind_ok (readRecord_object (r := ⟨some r.pageId, some r.actions⟩) ?_) _).trans rfl
  exact fill_field rfl rfl rfl
    (fill_field rfl rfl (readList_map Action.toJson fun a ha => action_toJson origin (h a ha)) rfl)

end

/-! ### Pages -/

section
variable (origin : Origin)

theorem properties_toJson {m : Entries Json} (h : ∀ e ∈ m.toList, e.2.IsValue) :
    readEntries readAny (ofJson (.object m.toList)) = .ok m := by
  have hread : readEntries readAny (ofJson (.object (m.toList.map id))) = .ok m :=
    readEntries_map id m.nodup fun e he => readAny_ofJson (h e he)
  rwa [List.map_id] at hread

theorem validations_toJson {vs : List Validation} (h : Validation.AreRead vs) :
    validations (ofJson (validationsToJson vs)) = .ok vs := by
  have hread := properties_toJson (m := ⟨_, h.nodup⟩) h.isValue_parameters
  rw [← h.toJson_eq] at hread
  refine (bind_ok (congrArg (some <$> ·) hread) _).trans (congrArg Except.ok ?_)
  rw [Option.getD_some, List.filterMap_map]
  exact (List.filterMap_congr fun v hv => Validation.ofMember?_parameter (h.each v hv)).trans List.filterMap_some

theorem block_toJson {b : Block} (h : b.IsRead) : block origin (ofJson b.toJson) = .ok b := by
  obtain ⟨id, kind, properties, vs⟩ := b
  have hkind : readChoice origin (fun name => .ok (BlockKind.ofName name)) (ofJson (.text kind.name)) = .ok kind :=
    congrArg Except.ok (BlockKind.ofName_name kind)
  -- No validations are not written.
  cases vs with
  | nil =>
    refine (bind_ok (readRecord_object (r := ⟨some id, some kind, some properties, none⟩) ?_) _).trans rfl
    exact fill_field rfl rfl rfl (fill_field rfl rfl hkind
      (fill_field rfl rfl (properties_toJson h.properties) rfl))
  | cons v vs =>
    refine (bind_ok (readRecord_object (r := ⟨some id, some kind, some properties, some (v :: vs)⟩) ?_) _).trans rfl
    exact fill_field rfl rfl rfl (fill_field rfl rfl hkind
      (fill_field rfl rfl (properties_toJson h.properties) (fill_field rfl rfl (validations_toJson h.validations) rfl)))

theorem pageProperties_toJson (buttonText : String) (redirectUrl : Option String) :
    pageProperties origin (ofJson (.ofMembers [("buttonText", some (.text buttonText)),
      ("redirectUrl", redirectUrl.map .text)])) = .ok (buttonText, redirectUrl) := by
  cases redirectUrl with
  | none =>
    refine (bind_ok (readRecord_object (r := ⟨some buttonText, none⟩) ?_) _).trans rfl
    exact fill_field rfl rfl rfl rfl
  | some url =>
    refine (bind_ok (readRecord_object (r := ⟨some buttonText, some (some url)⟩) ?_) _).trans rfl
    exact fill_field rfl rfl rfl (fill_field rfl rfl rfl rfl)

theorem page_toJson {p : Page} (h : p.IsRead) : page origin (ofJson p.toJson) = .ok p := by
  refine (bind_ok (readRecord_object
    (r := ⟨some p.id, some p.name, some p.blocks, some (p.buttonText, p.redirectUrl)⟩) ?_) _).trans rfl
  exact fill_field rfl rfl rfl (fill_field rfl rfl rfl
    (fill_field rfl rfl (readList_map Block.toJson fun b hb => block_toJson origin (h b hb))
      (fill_field rfl rfl (pageProperties_toJson origin p.buttonText p.redirectUrl) rfl)))

end

/-! ### Documents -/

section
variable (origin : Origin)

theorem variableValue_toJson {x : VariableValue} (h : x.IsRead) : variableValue (ofJson x.toJson) = .ok x := by
  cases x with
  | text => rfl
  | number x =>
    rw [VariableValue.toJson, Json.ofFloat_of_isFinite h]
    rfl

theorem document_toJson {d : Document} (h : d.IsRead) : document origin (ofJson d.toJson) = .ok d := by
  refine (bind_ok (readRecord_object
    (r := ⟨some d.id, some d.kind, some d.pages, some d.rules, some d.vars⟩) ?_) _).trans rfl
  exact fill_field rfl rfl rfl (fill_field rfl rfl (documentKind_name d.kind)
    (fill_field rfl rfl (readList_map Page.toJson fun p hp => page_toJson origin (h.pages p hp))
      (fill_field rfl rfl (readList_map Rule.toJson fun r hr => rule_toJson origin (h.rules r hr))
        (fill_field rfl rfl
          (readEntries_map VariableValue.toJson d.vars.nodup fun e he => variableValue_toJson (h.vars e he)) rfl))))

end

end Reading

/-! ### What is written is a value -/

theorem Reference.isValue_toJson (r : Reference) : r.toJson.IsValue := Json.isValue_withType (v := .text _) trivial

theorem ActionValue.isValue_toJson {v : ActionValue} (h : v.IsRead) : v.toJson.IsValue := by
  cases v with
  | constant w => exact Json.isValue_withType h
  | _ => exact Json.isValue_withType (v := .text _) trivial

theorem ActionDetails.isValue_toJson {d : ActionDetails} (h : d.IsRead) : d.toJson.IsValue := by
  refine Json.isValue_ofMembers (by simp) ?_
  simp only [List.forall_mem_cons, Option.map_eq_some_iff]
  refine ⟨?_, ?_, ?_, List.forall_mem_nil _⟩
  · rintro _ ⟨r, -, rfl⟩
    exact r.isValue_toJson
  · rintro _ ⟨r, -, rfl⟩
    exact r.isValue_toJson
  · rintro _ ⟨v, hv, rfl⟩
    exact ActionValue.isValue_toJson (h v hv)

theorem Action.isValue_toJson {a : Action} (h : a.IsRead) : a.toJson.IsValue := by
  refine Json.isValue_object.mpr ⟨by simp [Members.names], ?_⟩
  simp only [List.forall_mem_cons]
  exact ⟨trivial, Condition.isValue_toJson h.condition, ActionDetails.isValue_toJson h.details, List.forall_mem_nil _⟩

theorem Rule.isValue_toJson {r : Rule} (h : r.IsRead) : r.toJson.IsValue := by
  refine Json.isValue_object.mpr ⟨by simp [Members.names], ?_⟩
  simp only [List.forall_mem_cons]
  exact ⟨trivial, Json.isValue_map fun a ha => Action.isValue_toJson (h a ha), List.forall_mem_nil _⟩

theorem Block.isValue_toJson {b : Block} (h : b.IsRead) : b.toJson.IsValue := by
  refine Json.isValue_ofMembers (by simp) ?_
  simp only [List.forall_mem_cons, Option.some.injEq]
  refine ⟨?_, ?_, ?_, ?_, List.forall_mem_nil _⟩
  · rintro _ rfl
    trivial
  · rintro _ rfl
    trivial
  · rintro _ rfl
    exact Json.isValue_object.mpr ⟨b.properties.nodup, h.properties⟩
  · intro v hv
    split at hv
    · cases hv
    · obtain rfl := Option.some.inj hv
      exact h.validations.isValue_toJson

theorem Page.isValue_toJson {p : Page} (h : p.IsRead) : p.toJson.IsValue := by
  refine Json.isValue_object.mpr ⟨by simp [Members.names], ?_⟩
  simp only [List.forall_mem_cons]
  refine ⟨trivial, trivial, Json.isValue_map fun b hb => Block.isValue_toJson (h b hb), ?_, List.forall_mem_nil _⟩
  refine Json.isValue_ofMembers (by simp) ?_
  simp only [List.forall_mem_cons, Option.some.injEq, Option.map_eq_some_iff]
  refine ⟨?_, ?_, List.forall_mem_nil _⟩
  · rintro _ rfl
    trivial
  · rintro _ ⟨url, -, rfl⟩
    trivial

theorem VariableValue.isValue_toJson (v : VariableValue) : v.toJson.IsValue := by
  cases v with
  | number x => exact Json.isValue_ofFloat x
  | text s => trivial

theorem Variables.isValue_toJson (vars : Variables) : vars.toJson.IsValue := by
  refine Json.isValue_object.mpr ⟨(vars.mapValues VariableValue.toJson).nodup, fun e he => ?_⟩
  obtain ⟨⟨name, x⟩, -, rfl⟩ := List.mem_map.mp he
  exact x.isValue_toJson

theorem Document.isValue_toJson {d : Document} (h : d.IsRead) : d.toJson.IsValue := by
  refine Json.isValue_object.mpr ⟨by simp [Members.names], ?_⟩
  simp only [List.forall_mem_cons]
  exact ⟨trivial, trivial, Json.isValue_map fun p hp => Page.isValue_toJson (h.pages p hp),
    Json.isValue_map fun r hr => Rule.isValue_toJson (h.rules r hr), d.vars.isValue_toJson, List.forall_mem_nil _⟩

namespace Document

/-- Whatever value a document is read from, with its parts under any of their names or by position, and whatever was
dropped or kept as it was: the document is written as a value, which reads as the very same document and is written
again as it is. -/
theorem reads_back {raw : Json} {d : Document} (hraw : raw.IsValue) (h : ofJson raw = .ok d) :
    d.toJson.IsValue ∧ ofJson d.toJson = .ok d ∧ toJson <$> ofJson d.toJson = .ok d.toJson := by
  have hread : d.IsRead := Reading.document_isRead hraw h
  have hsame : ofJson d.toJson = .ok d := Reading.document_toJson .value hread
  refine ⟨isValue_toJson hread, hsame, ?_⟩
  rw [hsame]
  rfl

/-- A page given by position and a rule under an older name; a block of an unknown kind with a validation that is off,
one that is none and one with a fraction; a condition with a part that is none; a jump to nowhere. -/
def roughDraft : Json :=
  .object [("steps", .array [.array [.text "first", .text "", .array [.object
      [("type", .text "hologram"), ("id", .text "question"), ("properties", .object [("z", .int 1), ("a", .null)]),
        ("validations", .object [("required", .bool false), ("colour", .int 1), ("minLength", .float 3.5)])]]]]),
    ("rules", .array [.object [("stepId", .text "first"), ("actions", .array [.object [("type", .text "jump"),
      ("condition", .object [("op", .text "and"), ("vars", .array [.object [("op", .text "lt")]])]),
      ("details", .object [("to", .text "second"), ("value", .array [.text "constant", .null])])]])]])]

theorem isValue_roughDraft : roughDraft.IsValue := by
  have hfinite : Float.isFinite 3.5 = true := rfl
  simp [roughDraft, Json.IsValue, Json.AreValues, Json.AreMemberValues, Members.names, hfinite]

/-- What is read from it: the kind is not known, the fraction and what is off are gone, the part that is no condition is
kept. It is written and read again as that. -/
theorem reads_back_of_rough : ∃ d, ofJson roughDraft = .ok d ∧
    d.pages.flatMap Page.blocks = [⟨"question", .unknown, .ofList [("z", .int 1), ("a", .null)], [.minLength 3]⟩] ∧
    d.rules.flatMap Rule.actions =
      [⟨.jump, .all [.malformed (.object [("op", .text "lt")])], ⟨none, none, some (.constant .null)⟩⟩] ∧
    ofJson d.toJson = .ok d := by
  obtain ⟨d, hd, hblocks, hactions⟩ : ∃ d, ofJson roughDraft = .ok d ∧
      d.pages.flatMap Page.blocks = [⟨"question", .unknown, .ofList [("z", .int 1), ("a", .null)], [.minLength 3]⟩] ∧
      d.rules.flatMap Rule.actions =
        [⟨.jump, .all [.malformed (.object [("op", .text "lt")])], ⟨none, none, some (.constant .null)⟩⟩] :=
    ⟨_, rfl, rfl, rfl⟩
  exact ⟨d, hd, hblocks, hactions, (reads_back isValue_roughDraft hd).2.1⟩

end Document

end Questionnaire
