/-!
# Entries: finite maps with an order

A finite map from names to values that keeps its names in the order of their first insertion. The list functions
come first, because objects inside documents are plain lists of members; `Entries` adds the invariant that no
name occurs twice. `get?_insert` and `get?_erase` say what a change does to look-up.
-/

namespace Questionnaire

namespace Members

variable {α : Type}

/-- The value of the first member of that name. -/
def get? (name : String) : List (String × α) → Option α
  | [] => none
  | (n, a) :: rest => if n = name then some a else get? name rest

/-- The value replaced in place, or a new member at the end. -/
def insert (name : String) (a : α) : List (String × α) → List (String × α)
  | [] => [(name, a)]
  | (n, b) :: rest => if n = name then (n, a) :: rest else (n, b) :: insert name a rest

/-- The members without those of that name. -/
def erase (name : String) (members : List (String × α)) : List (String × α) :=
  members.filter fun m => m.1 ≠ name

def names (members : List (String × α)) : List String := members.map Prod.fst

/-- Members inserted one after the other, so that each name occurs once, with its last value. -/
def ofList (members : List (String × α)) : List (String × α) :=
  members.foldl (fun acc m => insert m.1 m.2 acc) []

@[simp] theorem get?_insert (name : String) (a : α) (members : List (String × α)) (other : String) :
    get? other (insert name a members) = if name = other then some a else get? other members := by
  induction members with
  | nil => simp [insert, get?]
  | cons m rest ih =>
    obtain ⟨n, b⟩ := m
    by_cases h : n = name
    · by_cases h' : name = other <;> simp [insert, get?, h, h']
    · by_cases h' : n = other
      · subst h'; simp [insert, get?, h, Ne.symm h]
      · simp [insert, get?, h, h', ih]

@[simp] theorem get?_erase (name : String) (members : List (String × α)) (other : String) :
    get? other (erase name members) = if name = other then none else get? other members := by
  unfold erase
  induction members with
  | nil => simp [get?]
  | cons m rest ih =>
    obtain ⟨n, b⟩ := m
    rw [List.filter_cons]
    by_cases h : n = name
    · subst h
      rw [if_neg (by simp), ih]
      by_cases h' : n = other <;> simp [get?, h']
    · rw [if_pos (by simp [h])]
      by_cases h' : n = other
      · subst h'; simp [get?, Ne.symm h]
      · simp only [get?, h', if_false, ih]

theorem mem_names_insert {name other : String} {a : α} {members : List (String × α)} :
    other ∈ names (insert name a members) ↔ other = name ∨ other ∈ names members := by
  induction members with
  | nil => simp [insert, names]
  | cons m rest ih =>
    obtain ⟨n, b⟩ := m
    by_cases h : n = name
    · subst h; simp [insert, names]
    · simp only [insert, h, names, if_false, List.map_cons, List.mem_cons] at ih ⊢
      rw [ih]
      exact or_left_comm

theorem nodup_insert {name : String} {a : α} {members : List (String × α)} (h : (names members).Nodup) :
    (names (insert name a members)).Nodup := by
  induction members with
  | nil => simp [insert, names]
  | cons m rest ih =>
    obtain ⟨n, b⟩ := m
    simp only [names, List.map_cons, List.nodup_cons] at h
    by_cases hn : n = name
    · simp only [insert, hn, if_true, names, List.map_cons, List.nodup_cons]
      exact hn ▸ h
    · simp only [insert, hn, if_false, names, List.map_cons, List.nodup_cons]
      refine ⟨fun hm => ?_, ih h.2⟩
      rcases mem_names_insert.1 hm with e | hm
      · exact hn e
      · exact h.1 hm

theorem nodup_erase {name : String} {members : List (String × α)} (h : (names members).Nodup) :
    (names (erase name members)).Nodup :=
  h.sublist (List.filter_sublist.map _)

theorem mem_of_get? {name : String} {a : α} {members : List (String × α)} (h : get? name members = some a) :
    (name, a) ∈ members := by
  induction members with
  | nil => cases h
  | cons m rest ih =>
    obtain ⟨n, b⟩ := m
    by_cases hn : n = name
    · simp only [get?, hn, if_true, Option.some.injEq] at h
      rw [hn, h]
      exact List.mem_cons_self
    · simp only [get?, hn, if_false] at h
      exact List.mem_cons_of_mem _ (ih h)

theorem get?_of_mem {name : String} {a : α} {members : List (String × α)} (hn : (names members).Nodup)
    (h : (name, a) ∈ members) : get? name members = some a := by
  induction members with
  | nil => cases h
  | cons m rest ih =>
    obtain ⟨n, b⟩ := m
    obtain ⟨hfirst, hrest⟩ := List.nodup_cons.mp hn
    rcases List.mem_cons.mp h with h | h
    · obtain ⟨rfl, rfl⟩ := Prod.mk.inj h
      simp only [get?, if_true]
    · have hne : n ≠ name := fun e => hfirst (List.mem_map.mpr ⟨(name, a), h, e.symm⟩)
      simp only [get?, hne, if_false, ih hrest h]

end Members

/-- A finite map from names, in the order of first insertion. -/
structure Entries (α : Type) where
  toList : List (String × α)
  nodup : (Members.names toList).Nodup

namespace Entries

variable {α β : Type}

@[ext] theorem ext {m n : Entries α} (h : m.toList = n.toList) : m = n := by
  cases m; cases n; simp_all

def empty : Entries α := ⟨[], List.nodup_nil⟩

instance : EmptyCollection (Entries α) := ⟨empty⟩

instance : Inhabited (Entries α) := ⟨empty⟩

def get? (m : Entries α) (name : String) : Option α := Members.get? name m.toList

def contains (m : Entries α) (name : String) : Bool := (m.get? name).isSome

def insert (m : Entries α) (name : String) (a : α) : Entries α :=
  ⟨Members.insert name a m.toList, Members.nodup_insert m.nodup⟩

def erase (m : Entries α) (name : String) : Entries α :=
  ⟨Members.erase name m.toList, Members.nodup_erase m.nodup⟩

/-- The entries of the first map, overridden and extended by those of the list. -/
def insertList (m : Entries α) (members : List (String × α)) : Entries α :=
  members.foldl (fun acc e => acc.insert e.1 e.2) m

/-- The entries of the first map, overridden and extended by those of the second. -/
def extend (m n : Entries α) : Entries α := m.insertList n.toList

def ofList (members : List (String × α)) : Entries α := empty.insertList members

/-- Every value changed, under the same names. -/
def mapValues (f : α → β) (m : Entries α) : Entries β :=
  ⟨m.toList.map fun (name, a) => (name, f a), by
    have h : Members.names (m.toList.map fun (name, a) => (name, f a)) = Members.names m.toList := by
      simp [Members.names, Function.comp_def]
    rw [h]; exact m.nodup⟩

def size (m : Entries α) : Nat := m.toList.length

def isEmpty (m : Entries α) : Bool := m.toList.isEmpty

def names (m : Entries α) : List String := Members.names m.toList

theorem get?_insert (m : Entries α) (name : String) (a : α) (other : String) :
    (m.insert name a).get? other = if name = other then some a else m.get? other :=
  Members.get?_insert name a m.toList other

theorem get?_erase (m : Entries α) (name other : String) :
    (m.erase name).get? other = if name = other then none else m.get? other :=
  Members.get?_erase name m.toList other

theorem get?_empty (name : String) : (empty : Entries α).get? name = none := rfl

theorem mem_toList {m : Entries α} {name : String} {a : α} : (name, a) ∈ m.toList ↔ m.get? name = some a :=
  ⟨Members.get?_of_mem m.nodup, Members.mem_of_get?⟩

/-- Look-up in the entries of members whose values go by their names. -/
theorem get?_insertList {f : String → Option α} {members : List (String × α)} (m : Entries α)
    (h : ∀ e ∈ members, f e.1 = some e.2) (name : String) :
    (m.insertList members).get? name = if name ∈ Members.names members then f name else m.get? name := by
  induction members generalizing m with
  | nil => rfl
  | cons e rest ih =>
    have hrest := ih (m.insert e.1 e.2) fun e' he' => h e' (List.mem_cons_of_mem _ he')
    have hfirst := h e List.mem_cons_self
    have hmem : name ∈ Members.names (e :: rest) ↔ e.1 = name ∨ name ∈ Members.names rest := by
      rw [Members.names, List.map_cons, List.mem_cons, eq_comm, Members.names]
    rw [insertList, List.foldl_cons, ← insertList, hrest, get?_insert]
    by_cases hname : e.1 = name
    · rw [if_pos (hmem.mpr (Or.inl hname)), if_pos hname, ← hname, hfirst, ite_self]
    · simp only [hmem, hname, false_or, if_false]

/-- An entry of the second map comes before one of the first. -/
theorem get?_extend (m n : Entries α) (name : String) : (m.extend n).get? name = (n.get? name).or (m.get? name) := by
  rw [extend, get?_insertList m (fun e he => mem_toList.mp he)]
  split
  · rename_i hname
    obtain ⟨⟨_, a⟩, he, rfl⟩ := List.mem_map.mp hname
    rw [mem_toList.mp he, Option.some_or]
  · rename_i hname
    cases hn : n.get? name with
    | none => rw [Option.none_or]
    | some a => exact absurd (List.mem_map.mpr ⟨(name, a), mem_toList.mpr hn, rfl⟩) hname

end Entries

end Questionnaire
