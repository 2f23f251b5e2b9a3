import Mathlib.Data.List.DropRight
import Questionnaire.Text.Blank

/-!
# Trimmed texts

Trimming takes white space from both ends of a text and nothing else. `IsTrim` says so without the function: what is
left neither begins nor ends with white space, and there was nothing but white space around it.
-/

namespace Questionnaire.Text

variable {cs name : List Char} {p : Char → Bool}

/-- The second text is the first without the white space at its ends. -/
structure IsTrim (cs name : List Char) : Prop where
  around : ∃ left right, cs = left ++ (name ++ right) ∧ (∀ c ∈ left, isBlank c = true) ∧ ∀ c ∈ right, isBlank c = true
  first : ∀ c rest, name = c :: rest → isBlank c = false
  last : ∀ c rest, name = rest ++ [c] → isBlank c = false

/-! ### One end -/

theorem dropLastWhile_eq_nil_of_forall (h : ∀ c ∈ cs, p c = true) : dropLastWhile p cs = [] := by
  induction cs with
  | nil => rfl
  | cons c rest ih =>
    rw [List.forall_mem_cons] at h
    simp only [dropLastWhile, ih h.2, h.1, if_true]

theorem dropLastWhile_append_of_forall {right : List Char} (h : ∀ c ∈ right, p c = true) (cs : List Char) :
    dropLastWhile p (cs ++ right) = dropLastWhile p cs := by
  induction cs with
  | nil => exact dropLastWhile_eq_nil_of_forall h
  | cons c rest ih => rw [List.cons_append, dropLastWhile, dropLastWhile, ih]

theorem dropLastWhile_concat_of_not {c : Char} (h : p c = false) (cs : List Char) :
    dropLastWhile p (cs ++ [c]) = cs ++ [c] := by
  induction cs with
  | nil => simp only [List.nil_append, dropLastWhile, h, Bool.false_eq_true, if_false]
  | cons d rest ih =>
    rw [List.cons_append, dropLastWhile, ih]
    cases rest <;> rfl

theorem dropLastWhile_eq_self (h : ∀ c rest, cs = rest ++ [c] → p c = false) : dropLastWhile p cs = cs := by
  rcases List.eq_nil_or_concat cs with rfl | ⟨rest, c, rfl⟩
  · rfl
  · rw [List.concat_eq_append] at h ⊢
    exact dropLastWhile_concat_of_not (h c rest rfl) rest

theorem not_of_rdropWhile_eq_concat {c : Char} {rest : List Char} (h : cs.rdropWhile p = rest ++ [c]) :
    p c = false := by
  have hlast := List.rdropWhile_last_not p cs (by rw [h]; exact List.concat_ne_nil c rest)
  simpa only [h, List.getLast_concat, Bool.not_eq_true] using hlast

theorem dropLastWhile_eq_rdropWhile (p : Char → Bool) (cs : List Char) : dropLastWhile p cs = cs.rdropWhile p := by
  conv_lhs => rw [← List.rdropWhile_append_rtakeWhile (p := p) (l := cs)]
  rw [dropLastWhile_append_of_forall fun c => List.mem_rtakeWhile_imp]
  exact dropLastWhile_eq_self fun c rest => not_of_rdropWhile_eq_concat

theorem dropLastWhile_eq_nil_iff : dropLastWhile p cs = [] ↔ ∀ c ∈ cs, p c = true := by
  rw [dropLastWhile_eq_rdropWhile, List.rdropWhile_eq_nil_iff]

theorem dropLastWhile_cons_of_not {c : Char} {rest : List Char} (h : ¬ ∀ d ∈ c :: rest, p d = true) :
    dropLastWhile p (c :: rest) = c :: dropLastWhile p rest := by
  rw [dropLastWhile]
  split
  · rename_i hnil
    have hc : ¬ p c = true := fun hc => h (List.forall_mem_cons.mpr ⟨hc, dropLastWhile_eq_nil_iff.mp hnil⟩)
    rw [if_neg hc, hnil]
  · rfl

/-! ### Both ends -/

theorem isTrim_trimChars (cs : List Char) : IsTrim cs (trimChars cs) := by
  have hright : (cs.dropWhile isBlank).rdropWhile isBlank ++ (cs.dropWhile isBlank).rtakeWhile isBlank =
      cs.dropWhile isBlank := List.rdropWhile_append_rtakeWhile
  rw [trimChars, dropLastWhile_eq_rdropWhile]
  refine ⟨⟨cs.takeWhile isBlank, (cs.dropWhile isBlank).rtakeWhile isBlank, ?_, fun c => List.mem_takeWhile_imp,
    fun c => List.mem_rtakeWhile_imp⟩, fun c rest h => ?_, fun c rest => not_of_rdropWhile_eq_concat⟩
  · rw [hright, List.takeWhile_append_dropWhile]
  · rw [h] at hright
    have hhead := List.head?_dropWhile_not isBlank cs
    rw [← hright] at hhead
    exact hhead

/-- There is one way to trim a text. -/
theorem isTrim_iff : IsTrim cs name ↔ name = trimChars cs := by
  refine ⟨fun h => ?_, fun h => h ▸ isTrim_trimChars cs⟩
  obtain ⟨left, right, rfl, hleft, hright⟩ := h.around
  rw [trimChars, List.dropWhile_append_of_pos hleft]
  cases name with
  | nil => rw [List.nil_append, List.dropWhile_eq_nil_iff.mpr hright, dropLastWhile]
  | cons c rest =>
    have hc : ¬ isBlank c = true := by rw [h.first c rest rfl]; decide
    rw [List.cons_append, List.dropWhile_cons_of_neg hc, ← List.cons_append, dropLastWhile_append_of_forall hright,
      dropLastWhile_eq_self h.last]

theorem trimChars_of_forall (h : ∀ c ∈ cs, isBlank c = false) : trimChars cs = cs :=
  (isTrim_iff.mp ⟨⟨[], [], (List.append_nil cs).symm, List.forall_mem_nil _, List.forall_mem_nil _⟩,
    fun c _ hcs => h c (hcs ▸ List.mem_cons_self),
    fun c _ hcs => h c (hcs ▸ List.mem_concat_self)⟩).symm

end Questionnaire.Text
