import Questionnaire.Reading

/-!
# Reading values that are at hand

A value at hand holds whole numbers of 64 bits, finite floats, and objects in which no name occurs twice. Read as any
value it is itself again. What a record, a list or a map is read from is again such values: `readRecord_induction`
carries a property of the parts through the fields of a record, whether they come by name or by position, and
`fillByName_field` reads a record that is written field by field.
-/

namespace Questionnaire

namespace Json

mutual

/-- A value as it is held: numbers within their range, and no name twice in an object. -/
def IsValue : Json → Prop
  | .null | .bool _ | .text _ => True
  | .int n => (-n).toNat ≤ Nat.pow 2 63 ∧ n.toNat < Nat.pow 2 64
  | .float x => x.isFinite = true
  | .array items => AreValues items
  | .object members => (Members.names members).Nodup ∧ AreMemberValues members

def AreValues : List Json → Prop
  | [] => True
  | v :: rest => v.IsValue ∧ AreValues rest

def AreMemberValues : List (String × Json) → Prop
  | [] => True
  | (_, v) :: rest => v.IsValue ∧ AreMemberValues rest

end

theorem areValues_iff {items : List Json} : AreValues items ↔ ∀ v ∈ items, v.IsValue := by
  induction items with
  | nil => simp [AreValues]
  | cons v rest ih => simp [AreValues, ih]

theorem areMemberValues_iff {members : List (String × Json)} :
    AreMemberValues members ↔ ∀ m ∈ members, m.2.IsValue := by
  induction members with
  | nil => simp [AreMemberValues]
  | cons m rest ih => simp [AreMemberValues, ih]

theorem isValue_array {items : List Json} : (Json.array items).IsValue ↔ ∀ v ∈ items, v.IsValue := by
  rw [IsValue, areValues_iff]

theorem isValue_object {members : List (String × Json)} :
    (Json.object members).IsValue ↔ (Members.names members).Nodup ∧ ∀ m ∈ members, m.2.IsValue := by
  rw [IsValue, areMemberValues_iff]

theorem isValue_of_get? {members : List (String × Json)} {name : String} {v : Json}
    (h : (Json.object members).IsValue) (hv : Members.get? name members = some v) : v.IsValue :=
  (isValue_object.mp h).2 _ (Members.mem_of_get? hv)

end Json

namespace Members

variable {α : Type}

/-- A name that is new goes to the end. -/
theorem insert_of_not_mem {name : String} {a : α} {members : List (String × α)} (h : name ∉ names members) :
    insert name a members = members ++ [(name, a)] := by
  induction members with
  | nil => rfl
  | cons m rest ih =>
    obtain ⟨n, b⟩ := m
    simp only [names, List.map_cons, List.mem_cons, not_or] at h
    rw [insert, if_neg (Ne.symm h.1), ih h.2, List.cons_append]

theorem mem_insert {name : String} {a : α} {members : List (String × α)} {e : String × α}
    (h : e ∈ insert name a members) : e = (name, a) ∨ e ∈ members := by
  induction members with
  | nil => exact Or.inl (List.mem_singleton.mp h)
  | cons m rest ih =>
    obtain ⟨n, b⟩ := m
    rw [insert] at h
    split at h
    · rename_i hn
      rcases List.mem_cons.mp h with h | h
      · exact Or.inl (hn ▸ h)
      · exact Or.inr (List.mem_cons_of_mem _ h)
    · rcases List.mem_cons.mp h with h | h
      · exact Or.inr (h ▸ List.mem_cons_self)
      · exact (ih h).imp_right (List.mem_cons_of_mem _)

theorem nodup_append_cons {name : String} {a : α} {members rest : List (String × α)}
    (h : (names (members ++ (name, a) :: rest)).Nodup) : name ∉ names members := by
  rw [names, List.map_append, List.map_cons] at h
  exact fun hmem => (List.nodup_append.mp h).2.2 name hmem name List.mem_cons_self rfl

/-- What a `filterMap` makes of a list has its names among those of the list, in their order. -/
theorem sublist_filterMap {β γ : Type} {f : α → Option β} {g : α → γ} {k : β → γ} {l : List α}
    (h : ∀ a ∈ l, ∀ b, f a = some b → k b = g a) : ((l.filterMap f).map k).Sublist (l.map g) := by
  induction l with
  | nil => exact List.Sublist.slnil
  | cons a rest ih =>
    rw [List.forall_mem_cons] at h
    rw [List.filterMap_cons]
    split
    · exact (ih h.2).cons _
    · rename_i b hb
      rw [List.map_cons, h.1 b hb]
      exact (ih h.2).cons_cons _

/-- Members under names of their own are what they are inserted as. -/
theorem ofList_of_nodup {members : List (String × α)} (h : (names members).Nodup) : ofList members = members := by
  have hfold : ∀ (rest acc : List (String × α)), (names (acc ++ rest)).Nodup →
      rest.foldl (fun acc m => insert m.1 m.2 acc) acc = acc ++ rest := by
    intro rest
    induction rest with
    | nil => exact fun acc _ => (List.append_nil acc).symm
    | cons m rest ih =>
      intro acc hn
      rw [List.foldl_cons, insert_of_not_mem (nodup_append_cons hn), List.append_cons acc m rest]
      rw [List.append_cons] at hn
      exact ih _ hn
  exact hfold members [] h

end Members

namespace Draft

/-! ### Any value -/

mutual

theorem readAny_ofJson {v : Json} (h : v.IsValue) : readAny (ofJson v) = .ok v := by
  cases v with
  | null | bool | int | float | text => rfl
  | array items =>
    rw [ofJson, readAny, readAnyItems_ofItems (by rwa [Json.IsValue] at h)]
    rfl
  | object members =>
    rw [Json.IsValue] at h
    rw [ofJson, readAny, readAnyMembers_ofMembers (List.nil_append members ▸ h.1) h.2]
    rfl

theorem readAnyItems_ofItems {items : List Json} (h : Json.AreValues items) :
    readAnyItems (ofItems items) = .ok items := by
  cases items with
  | nil => rfl
  | cons v rest =>
    rw [Json.AreValues] at h
    rw [ofItems, readAnyItems, readAny_ofJson h.1, readAnyItems_ofItems h.2]
    rfl

theorem readAnyMembers_ofMembers {members acc : List (String × Json)}
    (hn : (Members.names (acc ++ members)).Nodup) (h : Json.AreMemberValues members) :
    readAnyMembers (ofMembers members) acc = .ok (acc ++ members) := by
  cases members with
  | nil => rw [ofMembers, readAnyMembers, List.append_nil]
  | cons m rest =>
    obtain ⟨name, v⟩ := m
    rw [Json.AreMemberValues] at h
    have hinsert := Members.insert_of_not_mem (a := v) (Members.nodup_append_cons hn)
    rw [List.append_cons] at hn ⊢
    rw [← hinsert] at hn ⊢
    rw [ofMembers, readAnyMembers, readAny_ofJson h.1]
    exact readAnyMembers_ofMembers hn h.2

end

/-! ### Lists and maps -/

section
variable {α : Type} {read : Draft → Except ReadError α} {v : Json} {Q : α → Prop}

theorem ok_of_bind {β γ ε : Type} {x : Except ε β} {f : β → Except ε γ} {c : γ} (h : x >>= f = .ok c) :
    ∃ b, x = .ok b ∧ f b = .ok c := by
  cases x with
  | error => cases h
  | ok b => exact ⟨b, rfl, h⟩

theorem bind_ok {ε β γ : Type} {x : Except ε β} {b : β} (h : x = .ok b) (f : β → Except ε γ) : x >>= f = f b := by
  rw [h]
  rfl

theorem ok_of_map {β γ ε : Type} {x : Except ε β} {f : β → γ} {c : γ} (h : f <$> x = .ok c) :
    ∃ b, x = .ok b ∧ f b = c := by
  cases x with
  | error => cases h
  | ok b => exact ⟨b, rfl, Except.ok.inj h⟩

/-- What is read from values item by item. -/
theorem readItems_all {items : List Json} {as : List α} (hread : ∀ w a, w.IsValue → read (ofJson w) = .ok a → Q a)
    (hv : ∀ v ∈ items, v.IsValue) (h : readItems read (ofItems items) = .ok as) : ∀ a ∈ as, Q a := by
  induction items generalizing as with
  | nil =>
    obtain rfl := Except.ok.inj h
    exact List.forall_mem_nil Q
  | cons v rest ih =>
    obtain ⟨a, ha, h⟩ := ok_of_bind h
    obtain ⟨as', has, h⟩ := ok_of_bind h
    obtain rfl := Except.ok.inj h
    rw [List.forall_mem_cons] at hv ⊢
    exact ⟨hread v a hv.1 ha, ih hv.2 has⟩

theorem readList_all {as : List α} (hread : ∀ w a, w.IsValue → read (ofJson w) = .ok a → Q a) (hv : v.IsValue)
    (h : readList read (ofJson v) = .ok as) : ∀ a ∈ as, Q a := by
  cases v with
  | null | bool | int | float | text | object => cases h
  | array items =>
    obtain ⟨as', has, h⟩ := ok_of_bind h
    obtain rfl := Except.ok.inj h
    exact readItems_all hread (Json.isValue_array.mp hv) has

theorem readMembers_all {members : List (String × Json)} {acc m : Entries α}
    (hread : ∀ w a, w.IsValue → read (ofJson w) = .ok a → Q a) (hv : ∀ e ∈ members, e.2.IsValue)
    (hacc : ∀ e ∈ acc.toList, Q e.2) (h : readMembers read (ofMembers members) acc = .ok m) :
    ∀ e ∈ m.toList, Q e.2 := by
  induction members generalizing acc with
  | nil =>
    obtain rfl := Except.ok.inj h
    exact hacc
  | cons e rest ih =>
    obtain ⟨name, v⟩ := e
    rw [List.forall_mem_cons] at hv
    have hcons : readMembers read (ofMembers ((name, v) :: rest)) acc
        = read (ofJson v) >>= fun a => readMembers read (ofMembers rest) (acc.insert name a) := rfl
    obtain ⟨a, ha, h⟩ := ok_of_bind (hcons ▸ h)
    refine ih hv.2 (fun e he => ?_) h
    rcases Members.mem_insert he with rfl | he
    · exact hread v a hv.1 ha
    · exact hacc e he

theorem readEntries_all {m : Entries α} (hread : ∀ w a, w.IsValue → read (ofJson w) = .ok a → Q a) (hv : v.IsValue)
    (h : readEntries read (ofJson v) = .ok m) : ∀ e ∈ m.toList, Q e.2 := by
  cases v with
  | null | bool | int | float | text | array => cases h
  | object members =>
    obtain ⟨m', hm, h⟩ := ok_of_bind h
    obtain rfl := Except.ok.inj h
    exact readMembers_all hread (Json.isValue_object.mp hv).2 (List.forall_mem_nil _) hm

theorem readOption_ofJson {a : α} (h : readOption read (ofJson v) = .ok (some a)) : read (ofJson v) = .ok a := by
  cases v with
  | null => cases h
  | bool | int | float | text | array | object =>
    obtain ⟨a', ha, h⟩ := ok_of_map h
    exact Option.some.inj h ▸ ha

/-- A list of what is written item by item. -/
theorem readList_map (write : α → Json) {as : List α} (h : ∀ a ∈ as, read (ofJson (write a)) = .ok a) :
    readList read (ofJson (.array (as.map write))) = .ok as := by
  have hitems : readItems read (ofItems (as.map write)) = .ok as := by
    induction as with
    | nil => rfl
    | cons a rest ih =>
      rw [List.forall_mem_cons] at h
      rw [List.map_cons, ofItems, readItems, h.1, ih h.2]
      rfl
  simp only [ofJson, readList, untagged, hitems]
  rfl

theorem readMembers_map (write : α → Json) {members : List (String × α)} {acc : Entries α}
    (hn : (Members.names (acc.toList ++ members)).Nodup) (h : ∀ e ∈ members, read (ofJson (write e.2)) = .ok e.2) :
    readMembers read (ofMembers (members.map fun e => (e.1, write e.2))) acc = .ok ⟨acc.toList ++ members, hn⟩ := by
  induction members generalizing acc with
  | nil => exact congrArg Except.ok (Entries.ext (List.append_nil _).symm)
  | cons e rest ih =>
    obtain ⟨name, a⟩ := e
    rw [List.forall_mem_cons] at h
    have hinsert : (acc.insert name a).toList = acc.toList ++ [(name, a)] :=
      Members.insert_of_not_mem (Members.nodup_append_cons hn)
    have hn' : (Members.names ((acc.insert name a).toList ++ rest)).Nodup := by
      rwa [hinsert, ← List.append_cons]
    rw [List.map_cons, ofMembers, readMembers, h.1]
    refine (ih hn' h.2).trans (congrArg Except.ok (Entries.ext ?_))
    simp only [hinsert, List.append_assoc, List.singleton_append]

/-- A map of what is written entry by entry. -/
theorem readEntries_map (write : α → Json) {members : List (String × α)} (hn : (Members.names members).Nodup)
    (h : ∀ e ∈ members, read (ofJson (write e.2)) = .ok e.2) :
    readEntries read (ofJson (.object (members.map fun e => (e.1, write e.2)))) = .ok ⟨members, hn⟩ := by
  have hmembers := @readMembers_map _ read write members ∅ hn h
  simp only [ofJson, readEntries, untagged, hmembers]
  rfl

end

/-! ### Records -/

section
variable {σ : Type} {shape : Shape σ} {P : σ → Prop}

/-- The field, read from a value, keeps a property of the parts. -/
def RecordField.Keeps (f : RecordField σ) (P : σ → Prop) : Prop :=
  ∀ w acc acc', w.IsValue → P acc → f.read (ofJson w) acc = .ok acc' → P acc'

theorem fillByName_keeps (keeps : ∀ f ∈ shape.fields, f.Keeps P) {members : List (String × Json)} {acc r : σ}
    (hv : ∀ m ∈ members, m.2.IsValue) (hacc : P acc) (h : fillByName shape (ofMembers members) acc = .ok r) : P r := by
  induction members generalizing acc with
  | nil =>
    obtain rfl := Except.ok.inj h
    exact hacc
  | cons m rest ih =>
    obtain ⟨name, v⟩ := m
    rw [List.forall_mem_cons] at hv
    obtain ⟨name', hname, h⟩ := ok_of_bind h
    cases hf : shape.find? name' with
    | none =>
      simp only [hf] at h
      split at h
      · exact ih hv.2 hacc h
      · cases h
    | some f =>
      simp only [hf] at h
      split at h
      · cases h
      · obtain ⟨acc', hread, h⟩ := ok_of_bind h
        exact ih hv.2 (keeps f (List.mem_of_find?_eq_some hf) v acc acc' hv.1 hacc hread) h

theorem fillByPosition_keeps (keeps : ∀ f ∈ shape.fields, f.Keeps P) {fields : List (RecordField σ)}
    {items : List Json} {n : Nat} {acc : σ} {r : σ × List Draft} (hfields : fields ⊆ shape.fields) (hv : ∀ v ∈ items, v.IsValue) (hacc : P acc)
    (h : fillByPosition shape true n fields (ofItems items) acc = .ok r) : P r.1 := by
  induction fields generalizing items n acc with
  | nil =>
    obtain rfl := Except.ok.inj h
    exact hacc
  | cons f rest ih =>
    rw [List.cons_subset] at hfields
    cases items with
    | nil =>
      rw [ofItems, fillByPosition, Bool.not_true, if_neg Bool.false_ne_true] at h
      split at h
      · exact ih hfields.2 (fun _ hv => absurd hv List.not_mem_nil) hacc h
      · cases h
    | cons v items =>
      rw [List.forall_mem_cons] at hv
      obtain ⟨acc', hread, h⟩ := ok_of_bind h
      exact ih hfields.2 hv.2 (keeps f hfields.1 v acc acc' hv.1 hacc hread) h

/-- What every field keeps holds of the parts of a record that is read from a value. -/
theorem readRecord_induction {origin : Origin} {start r : σ} {v : Json} (keeps : ∀ f ∈ shape.fields, f.Keeps P)
    (hv : v.IsValue) (h : readRecord origin shape start (ofJson v) = .ok r) (hstart : P start) : P r := by
  cases v with
  | null | bool | int | float | text => cases h
  | object members =>
    obtain ⟨r', hr, h⟩ := ok_of_bind h
    obtain rfl := Except.ok.inj h
    exact fillByName_keeps keeps (Json.isValue_object.mp hv).2 hstart hr
  | array items =>
    simp only [ofJson, readRecord, untagged] at h
    split at h
    · cases h
    · obtain ⟨⟨r', left⟩, hr, h⟩ := ok_of_bind h
      simp only at h
      split at h
      · obtain rfl := Except.ok.inj h
        exact fillByPosition_keeps keeps (List.Subset.refl _) (Json.isValue_array.mp hv) hstart hr
      · split at h <;> cases h

/-- A field that is written reads into the parts. -/
theorem fillByName_field {f : RecordField σ} {name : String} {d : Draft} {rest : List (Draft × Draft)} {acc acc' : σ}
    (hfind : shape.find? name = some f) (hfresh : f.filled acc = false) (hread : f.read d acc = .ok acc') :
    fillByName shape ((.text name, d) :: rest) acc = fillByName shape rest acc' := by
  have hname : readText (.text name) = .ok name := rfl
  rw [fillByName, hname]
  simp only [bind, Except.bind, hfind, hfresh, hread, Bool.false_eq_true, if_false]

theorem readRecord_object {origin : Origin} {members : List (String × Json)} {s r : σ}
    (h : fillByName shape (ofMembers members) s = .ok r) :
    readRecord origin shape s (ofJson (.object members)) = .ok r := by
  simp only [ofJson, readRecord, untagged, h]
  rfl

end

end Draft

end Questionnaire
