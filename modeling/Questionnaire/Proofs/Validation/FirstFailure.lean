import Questionnaire.Grammars.Builtin
import Questionnaire.Proofs.Number.Order
import Questionnaire.Validation

/-!
# What validation reports

An answer passes a validation or it does not; what each kind asks for is said here in terms of the answer. A block fails
if its answer does not pass one of its validations, and then the first of these is reported. Of several failing blocks
with one id the last one is reported.
-/

namespace Questionnaire

/-! ### What an answer can be -/

/-- There is no answer, or it is null, an empty text or an empty list. -/
inductive IsBlank : Option Json → Prop
  | missing : IsBlank none
  | null : IsBlank (some .null)
  | text : IsBlank (some (.text ""))
  | array : IsBlank (some (.array []))

/-- There is no answer, or it is null, false, zero, no number or an empty text. -/
inductive IsFalsy : Option Json → Prop
  | missing : IsFalsy none
  | null : IsFalsy (some .null)
  | false : IsFalsy (some (.bool false))
  | zeroInt : IsFalsy (some (.int 0))
  | zero {x} : (x == 0) = true → IsFalsy (some (.float x))
  | noNumber {x} : x.isNaN = true → IsFalsy (some (.float x))
  | text : IsFalsy (some (.text ""))

/-- How many picks an answer is: as many as a list has items, and one if it is anything else that is not falsy. -/
inductive Picks : Option Json → Nat → Prop
  | items {items : List Json} : Picks (some (.array items)) items.length
  | single {answer} : (∀ items, answer ≠ some (.array items)) → ¬ IsFalsy answer → Picks answer 1
  | nothing {answer} : IsFalsy answer → Picks answer 0

/-- The number that an answer is, or that it writes as a text. -/
inductive Reads : Option Json → Float → Prop
  | int {n} : Reads (some (.int n)) (Number.ofInt n)
  | float {x} : Reads (some (.float x)) x
  | text {s x} : Number.ofText? s = some x → Reads (some (.text s)) x

/-- The first number is at most the second one. What is no number is neither above a bound nor below it. -/
def IsAtMost (x y : Float) : Prop := x ≤ y ∨ x.isNaN = true ∨ y.isNaN = true

namespace Validation

variable [Grammars] in
/-- What it takes for an answer to pass. -/
def Passes (answer : Option Json) : Validation → Prop
  | required => ¬ IsBlank answer
  | minLength n => IsFalsy answer ∨ ∃ v, answer = some v ∧ n ≤ v.asText.length
  | maxLength n => IsFalsy answer ∨ ∃ v, answer = some v ∧ v.asText.length ≤ n
  | minChoices n => ∃ k, Picks answer k ∧ n ≤ k
  | maxChoices n => ∃ k, Picks answer k ∧ k ≤ n
  | min x => ∀ a, Reads answer a → IsAtMost x a
  | max x => ∀ a, Reads answer a → IsAtMost a x
  | pattern source =>
    IsFalsy answer ∨ (∃ message, Grammars.compile source = .error message) ∨
      ∃ fits v, Grammars.compile source = .ok fits ∧ answer = some v ∧ fits v.asText = true

/-- What is said of an answer that does not pass. -/
def complaint : Validation → Complaint
  | required => .missing
  | minLength n => .tooShort n
  | maxLength n => .tooLong n
  | minChoices n => .tooFewChoices n
  | maxChoices n => .tooManyChoices n
  | min x => .tooSmall x
  | max x => .tooLarge x
  | pattern _ => .badFormat

end Validation

section
variable {answer : Option Json}

/-! ### Kinds of answers -/

theorem isBlankAnswer_iff : isBlankAnswer answer = true ↔ IsBlank answer := by
  constructor
  · intro h
    unfold isBlankAnswer at h
    split at h
    · exact .missing
    · exact .null
    · exact .text
    · exact .array
    · cases h
  · rintro (_ | _ | _ | _) <;> rfl

theorem isTruthyAnswer_iff : isTruthyAnswer answer = true ↔ ¬ IsFalsy answer := by
  cases answer with
  | none => exact iff_of_false Bool.false_ne_true fun h => h .missing
  | some v =>
    have hread : isTruthyAnswer (some v) = v.isTruthy := rfl
    rw [hread]
    cases v with
    | null => exact iff_of_false Bool.false_ne_true fun h => h .null
    | bool b =>
      cases b with
      | false => exact iff_of_false Bool.false_ne_true fun h => h .false
      | true => exact iff_of_true rfl fun h => by cases h
    | int n =>
      rw [Json.isTruthy, bne_iff_ne]
      refine not_congr ⟨?_, ?_⟩
      · rintro rfl
        exact .zeroInt
      · rintro ⟨⟩
        rfl
    | float x =>
      rw [Json.isTruthy, bne, ← Bool.not_or, Bool.not_eq_true', ← Bool.not_eq_true, Bool.or_eq_true]
      refine not_congr ⟨?_, ?_⟩
      · rintro (h | h)
        · exact .zero h
        · exact .noNumber h
      · rintro (_ | _ | _ | _ | h | h | _)
        · exact Or.inl h
        · exact Or.inr h
    | text s =>
      rw [Json.isTruthy, Bool.not_eq_true', ← Bool.not_eq_true, String.isEmpty_iff]
      refine not_congr ⟨?_, ?_⟩
      · rintro rfl
        exact .text
      · rintro ⟨⟩
        rfl
    | array | object => exact iff_of_true rfl fun h => by cases h

theorem choiceCount_of_not_list (h : ∀ items, answer ≠ some (.array items)) :
    choiceCount answer = if isTruthyAnswer answer then 1 else 0 := by
  rcases answer with _ | v
  · rfl
  · cases v with
    | array items => exact absurd rfl (h items)
    | _ => rfl

theorem picks_iff {k : Nat} : Picks answer k ↔ choiceCount answer = k := by
  constructor
  · rintro (_ | ⟨hlist, hcounts⟩ | hfalsy)
    · rfl
    · rw [choiceCount_of_not_list hlist, if_pos (isTruthyAnswer_iff.mpr hcounts)]
    · rw [choiceCount_of_not_list, if_neg fun h => isTruthyAnswer_iff.mp h hfalsy]
      rintro items rfl
      cases hfalsy
  · rintro rfl
    by_cases hlist : ∃ items, answer = some (.array items)
    · obtain ⟨items, rfl⟩ := hlist
      exact .items
    · have hother : ∀ items, answer ≠ some (.array items) := fun items heq => hlist ⟨items, heq⟩
      rw [choiceCount_of_not_list hother]
      split
      · rename_i h
        exact .single hother (isTruthyAnswer_iff.mp h)
      · rename_i h
        exact .nothing (not_not.mp fun hcounts => h (isTruthyAnswer_iff.mpr hcounts))

theorem reads_iff {x : Float} : Reads answer x ↔ answerNumber? answer = some x := by
  constructor
  · rintro (_ | _ | h)
    · rfl
    · rfl
    · exact h
  · intro h
    obtain ⟨v, rfl, hnumber⟩ := Option.bind_eq_some_iff.mp h
    cases v with
    | int n => exact Option.some.inj hnumber ▸ .int
    | float y => exact Option.some.inj hnumber ▸ .float
    | text s => exact .text hnumber
    | _ => cases hnumber

/-- Only the text of an answer that is not falsy is looked at. -/
theorem isFalsy_or_text_iff {P : String → Prop} :
    (IsFalsy answer ∨ ∃ v, answer = some v ∧ P v.asText) ↔ (isTruthyAnswer answer = true → P (answerText answer)) := by
  rw [isTruthyAnswer_iff, ← or_iff_not_imp_left]
  cases answer with
  | none => exact iff_of_true (Or.inl .missing) (Or.inl .missing)
  | some v => simp only [Option.some.injEq, exists_eq_left', answerText, Option.map_some, Option.getD_some]

end

/-! ### Validations -/

section
variable [Grammars]

namespace Validation

variable {answer : Option Json} {v : Validation} {c : Complaint}

theorem complaint?_eq_none_iff : v.complaint? answer = none ↔ v.Passes answer := by
  cases v with
  | required => simp only [complaint?, Passes, ite_eq_right_iff, reduceCtorEq, imp_false, isBlankAnswer_iff]
  | minLength n =>
    simp only [complaint?, ite_eq_right_iff, reduceCtorEq, imp_false, Bool.and_eq_true, decide_eq_true_eq, not_and,
      Nat.not_lt]
    exact (isFalsy_or_text_iff (P := fun s => n ≤ s.length)).symm
  | maxLength n =>
    simp only [complaint?, ite_eq_right_iff, reduceCtorEq, imp_false, Bool.and_eq_true, decide_eq_true_eq, not_and,
      Nat.not_lt]
    exact (isFalsy_or_text_iff (P := fun s => s.length ≤ n)).symm
  | minChoices n | maxChoices n =>
    simp only [complaint?, Passes, ite_eq_right_iff, reduceCtorEq, imp_false, Nat.not_lt, picks_iff, exists_eq_left']
  | min x | max x =>
    simp only [complaint?, Passes, reads_iff]
    cases answerNumber? answer with
    | none => exact iff_of_true rfl fun _ h => by cases h
    | some a =>
      simp only [ite_eq_right_iff, reduceCtorEq, imp_false, Number.not_lt_iff, IsAtMost, Option.some.injEq,
        forall_eq', or_comm (a := Float.isNaN a = true)]
  | pattern source =>
    rw [complaint?, Passes]
    cases Grammars.compile source with
    | error message => exact iff_of_true (ite_self none) (Or.inr (Or.inl ⟨message, rfl⟩))
    | ok fits =>
      simp only [Except.ok.injEq, reduceCtorEq, exists_false, false_or, exists_and_left, exists_eq_left']
      rw [isFalsy_or_text_iff (P := fun s => fits s = true)]
      simp

theorem eq_complaint (h : v.complaint? answer = some c) : c = v.complaint := by
  cases v with
  | min x | max x =>
    rw [complaint?] at h
    split at h
    · exact (Option.some.inj (Option.ite_none_right_eq_some.mp h).2).symm
    · cases h
  | pattern source =>
    rw [complaint?, Option.ite_none_right_eq_some] at h
    obtain ⟨-, h⟩ := h
    split at h
    · exact (Option.some.inj (Option.ite_none_left_eq_some.mp h).2).symm
    · cases h
  | _ => exact (Option.some.inj (Option.ite_none_right_eq_some.mp h).2).symm

theorem complaint?_of_not_passes (h : ¬ v.Passes answer) : v.complaint? answer = some v.complaint := by
  obtain ⟨c, hc⟩ := Option.ne_none_iff_exists'.mp (mt complaint?_eq_none_iff.mp h)
  rw [hc, eq_complaint hc]

end Validation

/-! ### Blocks -/

namespace Block

/-- The answer does not pass one of the validations. -/
def Fails (b : Block) (answers : Answers) : Prop := ∃ v ∈ b.validations, ¬ v.Passes (answers.get? b.id)

/-- The first validation that the answer does not pass. -/
def FirstFailure (b : Block) (answers : Answers) (v : Validation) : Prop :=
  ∃ earlier later, b.validations = earlier ++ v :: later ∧ (∀ u ∈ earlier, u.Passes (answers.get? b.id)) ∧
    ¬ v.Passes (answers.get? b.id)

variable {b : Block} {answers : Answers} {c : Complaint}

theorem complaint?_eq_none_iff : b.complaint? answers = none ↔ ¬ b.Fails answers := by
  simp only [complaint?, List.findSome?_eq_none_iff, Validation.complaint?_eq_none_iff, Fails, not_exists, not_and,
    not_not]

theorem complaint?_eq_some_iff : b.complaint? answers = some c ↔ ∃ v, b.FirstFailure answers v ∧ c = v.complaint := by
  simp only [complaint?, List.findSome?_eq_some_iff, Validation.complaint?_eq_none_iff]
  constructor
  · rintro ⟨earlier, v, later, hv, hc, hearlier⟩
    have hfails : ¬ v.Passes (answers.get? b.id) := by
      rw [← Validation.complaint?_eq_none_iff, hc]
      nofun
    exact ⟨v, ⟨earlier, later, hv, hearlier, hfails⟩, Validation.eq_complaint hc⟩
  · rintro ⟨v, ⟨earlier, later, hv, hearlier, hfails⟩, rfl⟩
    exact ⟨earlier, v, later, hv, Validation.complaint?_of_not_passes hfails, hearlier⟩

end Block

end

/-! ### Lists of blocks -/

/-- The last item of a list with a property. -/
def IsLast {α : Type} (P : α → Prop) (l : List α) (x : α) : Prop :=
  ∃ earlier later, l = earlier ++ x :: later ∧ P x ∧ ∀ y ∈ later, ¬ P y

variable [Grammars] in
/-- The last block with that id that fails. -/
def LastFailing (blocks : List Block) (answers : Answers) (id : String) : Block → Prop :=
  IsLast (fun b => b.id = id ∧ b.Fails answers) blocks

theorem isLast_concat {α : Type} {P : α → Prop} {l : List α} {x y : α} :
    IsLast P (l ++ [y]) x ↔ P y ∧ x = y ∨ ¬ P y ∧ IsLast P l x := by
  constructor
  · rintro ⟨earlier, later, heq, hx, hlater⟩
    rcases later.eq_nil_or_concat with rfl | ⟨later, z, rfl⟩
    · obtain ⟨-, hxy⟩ := List.append_inj' heq rfl
      cases hxy
      exact Or.inl ⟨hx, rfl⟩
    · rw [List.concat_eq_append] at heq hlater
      rw [← List.cons_append, ← List.append_assoc] at heq
      obtain ⟨hl, hyz⟩ := List.append_inj' heq rfl
      cases hyz
      refine Or.inr ⟨hlater y (List.mem_concat_self), earlier, later, hl, hx, fun w hw => ?_⟩
      exact hlater w (List.mem_append_left _ hw)
  · rintro (⟨hy, rfl⟩ | ⟨hy, earlier, later, rfl, hx, hlater⟩)
    · exact ⟨l, [], rfl, hy, List.forall_mem_nil _⟩
    · refine ⟨earlier, later ++ [y], by rw [List.append_assoc, List.cons_append], hx, fun w hw => ?_⟩
      rcases List.mem_append.mp hw with hw | hw
      · exact hlater w hw
      · exact List.mem_singleton.mp hw ▸ hy

theorem Entries.mem_names_insertList_iff {α : Type} {members : List (String × α)} {m : Entries α} {name : String} :
    name ∈ (m.insertList members).names ↔ name ∈ m.names ∨ name ∈ Members.names members := by
  induction members generalizing m with
  | nil => exact (or_iff_left List.not_mem_nil).symm
  | cons e rest ih =>
    have hinsert : name ∈ (m.insert e.1 e.2).names ↔ name = e.1 ∨ name ∈ m.names := Members.mem_names_insert
    rw [insertList, List.foldl_cons, ← insertList, ih, hinsert, Members.names, Members.names, List.map_cons,
      List.mem_cons, or_comm (a := name = e.1), or_assoc]

theorem Entries.isEmpty_iff {α : Type} {m : Entries α} : m.isEmpty = true ↔ ∀ name, name ∉ m.names := by
  rw [isEmpty, List.isEmpty_iff, ← List.eq_nil_iff_forall_not_mem, names, Members.names, List.map_eq_nil_iff]

section
variable [Grammars] {blocks : List Block} {b : Block} {answers : Answers} {id : String} {c : Complaint}
  {found : Complaints}

theorem get?_complaints_concat : (b.id = id ∧ b.Fails answers →
      (complaints (blocks ++ [b]) answers).get? id = b.complaint? answers) ∧
    (¬ (b.id = id ∧ b.Fails answers) →
      (complaints (blocks ++ [b]) answers).get? id = (complaints blocks answers).get? id) := by
  cases hb : b.complaint? answers with
  | none =>
    have hconcat : complaints (blocks ++ [b]) answers = complaints blocks answers := by
      rw [complaints, List.filterMap_append, List.filterMap_cons, hb]
      simp [complaints]
    rw [Block.complaint?_eq_none_iff] at hb
    exact ⟨fun h => absurd h.2 hb, fun _ => by rw [hconcat]⟩
  | some c =>
    have hconcat : complaints (blocks ++ [b]) answers = (complaints blocks answers).insert b.id c := by
      rw [complaints, List.filterMap_append, List.filterMap_cons, hb]
      simp [complaints, Entries.ofList, Entries.insertList]
    have hfails : b.Fails answers := by
      by_contra hpass
      rw [Block.complaint?_eq_none_iff.mpr hpass] at hb
      cases hb
    rw [hconcat, Entries.get?_insert]
    exact ⟨fun h => if_pos h.1, fun h => if_neg fun hid => h ⟨hid, hfails⟩⟩

/-- The complaint under an id is that of the last block that fails, about the first validation. -/
theorem get?_complaints_iff : (complaints blocks answers).get? id = some c ↔
    ∃ b v, LastFailing blocks answers id b ∧ b.FirstFailure answers v ∧ c = v.complaint := by
  -- A later block puts its complaint in place of an earlier one's, so the list grows at its end.
  induction blocks using List.reverseRecOn with
  | nil =>
    refine iff_of_false nofun ?_
    rintro ⟨b, v, ⟨earlier, later, heq, -⟩, -⟩
    cases earlier <;> cases heq
  | append_singleton blocks b ih =>
    by_cases hlast : b.id = id ∧ b.Fails answers
    · rw [get?_complaints_concat.1 hlast, Block.complaint?_eq_some_iff]
      simp only [LastFailing, isLast_concat, hlast, not_true_eq_false, true_and, false_and, or_false]
      simp
    · rw [get?_complaints_concat.2 hlast, ih]
      simp only [LastFailing, isLast_concat, hlast, not_false_eq_true, true_and, false_and, false_or]

theorem mem_names_complaints_iff :
    id ∈ (complaints blocks answers).names ↔ ∃ b ∈ blocks, b.id = id ∧ b.Fails answers := by
  have hnone : id ∉ (Entries.empty : Complaints).names := List.not_mem_nil
  rw [complaints, Entries.ofList, Entries.mem_names_insertList_iff, or_iff_right hnone, Members.names]
  simp only [List.mem_map, List.mem_filterMap]
  constructor
  · rintro ⟨_, ⟨b, hb, hc⟩, rfl⟩
    obtain ⟨c, hc, rfl⟩ := Option.map_eq_some_iff.mp hc
    refine ⟨b, hb, rfl, not_not.mp fun hpass => ?_⟩
    rw [Block.complaint?_eq_none_iff.mpr hpass] at hc
    cases hc
  · rintro ⟨b, hb, rfl, hfails⟩
    obtain ⟨c, hc⟩ := Option.ne_none_iff_exists'.mp fun hc => Block.complaint?_eq_none_iff.mp hc hfails
    exact ⟨(b.id, c), ⟨b, hb, Option.map_eq_some_iff.mpr ⟨c, hc, rfl⟩⟩, rfl⟩

theorem validate_eq_none_iff : validate blocks answers = none ↔ ∀ b ∈ blocks, ¬ b.Fails answers := by
  have hempty : (complaints blocks answers).isEmpty = true ↔ ∀ b ∈ blocks, ¬ b.Fails answers := by
    simp only [Entries.isEmpty_iff, mem_names_complaints_iff, not_exists, not_and]
    exact ⟨fun h b hb => h b.id b hb rfl, fun h _ b hb _ => h b hb⟩
  rw [validate, ← hempty]
  split
  · rename_i h
    exact iff_of_true rfl h
  · rename_i h
    exact iff_of_false nofun h

theorem validate_eq_some_iff :
    validate blocks answers = some found ↔ complaints blocks answers = found ∧ found.isEmpty = false := by
  rw [validate]
  split
  · rename_i hempty
    refine iff_of_false nofun ?_
    rintro ⟨rfl, hsome⟩
    rw [hempty] at hsome
    cases hsome
  · rename_i hsome
    rw [Option.some.injEq]
    refine ⟨fun h => ⟨h, ?_⟩, And.left⟩
    rw [← h]
    exact eq_false_of_ne_true hsome

/-- **Validation reports exactly the blocks that fail, each with its first failure.** Nothing is reported exactly if the
answer of every block passes all validations of the block. Otherwise the ids of the failing blocks are reported and no
other, and what is said under an id is what the first validation says that the last failing block of this id has and its
answer does not pass. -/
theorem validation_reports_first_failures (blocks : List Block) (answers : Answers) :
    (validate blocks answers = none ↔ ∀ b ∈ blocks, ∀ v ∈ b.validations, v.Passes (answers.get? b.id)) ∧
    ∀ found, validate blocks answers = some found →
      (∀ id, id ∈ found.names ↔ ∃ b ∈ blocks, b.id = id ∧ ∃ v ∈ b.validations, ¬ v.Passes (answers.get? id)) ∧
      ∀ id text, (found.get? id).map Complaint.message = some text ↔
        ∃ b v, LastFailing blocks answers id b ∧ b.FirstFailure answers v ∧ text = v.complaint.message := by
  constructor
  · simp only [validate_eq_none_iff, Block.Fails, not_exists, not_and, not_not]
  · intro found h
    obtain ⟨rfl, -⟩ := validate_eq_some_iff.mp h
    refine ⟨fun id => ?_, fun id text => ?_⟩
    · rw [mem_names_complaints_iff]
      refine exists_congr fun b => and_congr_right fun _ => and_congr_right fun hid => ?_
      rw [Block.Fails, hid]
    · simp only [Option.map_eq_some_iff, get?_complaints_iff]
      constructor
      · rintro ⟨_, ⟨b, v, hb, hv, rfl⟩, rfl⟩
        exact ⟨b, v, hb, hv, rfl⟩
      · rintro ⟨b, v, hb, hv, rfl⟩
        exact ⟨_, ⟨b, v, hb, hv, rfl⟩, rfl⟩

end

/-- A block whose second validation is the first one that an answer with an umlaut does not pass. -/
def plain : Block where
  id := "name"
  kind := .textInput
  validations := [.minChoices 1, .pattern "^[a-z]+$", .minLength 5]

/-- The same id twice, and a block with an answer that it passes. -/
def nicknames : List Block :=
  [{ plain with validations := [.required, .minLength 3] }, plain,
    { id := "colors", kind := .multipleChoice, validations := [.required] }]

def nickname : Answers := Entries.ofList [("name", .text "äö"), ("colors", .array [.text ""])]

open scoped Grammars in
theorem validation_reports_first_failures_of_nicknames : ∃ found, validate nicknames nickname = some found ∧
    "colors" ∉ found.names ∧ (found.get? "name").map Complaint.message = some "Invalid format" := by
  have hsome : (validate nicknames nickname).isSome = true := by decide +kernel
  obtain ⟨found, hfound⟩ := Option.isSome_iff_exists.mp hsome
  obtain ⟨hnames, hmessage⟩ := (validation_reports_first_failures nicknames nickname).2 found hfound
  have hpicked : Validation.required.Passes (nickname.get? "colors") := Validation.complaint?_eq_none_iff.mp rfl
  have hcounted : (Validation.minChoices 1).Passes (nickname.get? "name") := Validation.complaint?_eq_none_iff.mp rfl
  have hformat : ¬ (Validation.pattern "^[a-z]+$").Passes (nickname.get? "name") := fun h => by
    have hfits := congrArg Option.isNone (Validation.complaint?_eq_none_iff.mpr h)
    revert hfits
    decide +kernel
  have hfirst : plain.FirstFailure nickname (.pattern "^[a-z]+$") :=
    ⟨[.minChoices 1], [.minLength 5], rfl, List.forall_mem_singleton.mpr hcounted, hformat⟩
  have hlast : LastFailing nicknames nickname "name" plain := by
    refine ⟨[_], [_], rfl, ⟨rfl, .pattern _, by simp [plain], hformat⟩, List.forall_mem_singleton.mpr fun h => ?_⟩
    exact absurd h.1 (by decide)
  refine ⟨found, hfound, fun hmem => ?_, (hmessage _ _).mpr ⟨plain, .pattern _, hlast, hfirst, rfl⟩⟩
  obtain ⟨b, hb, hid, v, hv, hfails⟩ := (hnames "colors").mp hmem
  fin_cases hb
  · exact absurd hid (by decide)
  · exact absurd hid (by decide)
  · exact hfails (List.mem_singleton.mp hv ▸ hpicked)

end Questionnaire
