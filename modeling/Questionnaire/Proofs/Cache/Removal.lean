import Questionnaire.Proofs.Cache.Order

/-!
# Removals are final

A removal stands in line behind every write that was asked for before it and has not been cancelled. Once it has been
carried out, such a write is nowhere to be found any more, so that the entry stays away until a new write is asked
for; and a write that was asked for after the removal is carried out after it.
-/

namespace Questionnaire

namespace Cache

/-- The removal of that generation was asked for, and nothing has been asked to be written since. -/
def Closes (key : String) (log : List Event) (g : Nat) : Prop :=
  ∃ before o after, log = before ++ .cleared g key o :: after ∧ ∀ w o, .scheduled w o ∉ after

section
variable {log : List Event} {e : Event} {key : String} {g : Nat}

theorem Closes.concat (h : Closes key log g) (he : ∀ w o, e ≠ .scheduled w o) : Closes key (log ++ [e]) g := by
  obtain ⟨before, o, after, rfl, hnone⟩ := h
  refine ⟨before, o, after ++ [e], by rw [List.append_assoc, List.cons_append], fun w o hw => ?_⟩
  rcases List.mem_append.mp hw with hw | hw
  · exact hnone w o hw
  · exact he w o (List.mem_singleton.mp hw).symm

theorem Closes.mem_issued (h : Closes key log g) : .clear g key ∈ issued log := by
  obtain ⟨before, o, after, rfl, -⟩ := h
  exact mem_issued_split.mpr (Or.inr (Or.inl rfl))

end

namespace Orderly
variable {log : List Event} {c : Cache} {g : Nat} {key : String}

/-- While no write is asked for after a removal, every write is older than it. -/
theorem generation_lt (h : Orderly log c) (hcloses : Closes key log g) {w : Write} (hw : .write w ∈ issued log) :
    w.generation < g := by
  obtain ⟨before, o, after, rfl, hnone⟩ := hcloses
  rcases mem_issued_split.mp hw with hw | hw | hw
  · exact h.lt_of_earlier hw rfl
  · cases hw
  · obtain ⟨e, he, hwe⟩ := List.mem_filterMap.mp hw
    cases e with
    | scheduled w' o' => exact absurd he (hnone w' o')
    | cleared => cases Option.some.inj hwe
    | dropped | elapsed | skipped | began | ended | ticked => cases hwe

/-- Once the removal has been carried out, no write is left to come, and those that were carried out were before. -/
theorem carriedOut_split (h : Orderly log c) (hcloses : Closes key log g) (hdone : .clear g key ∈ carriedOut log) :
    (∀ w, .write w ∉ c.outstanding) ∧
    ∃ first rest, carriedOut log = first ++ .clear g key :: rest ∧ ∀ t ∈ rest, ∀ w, t ≠ .write w := by
  obtain ⟨first, rest, hsplit⟩ := List.append_of_mem hdone
  have hi := h.increasing_turns
  rw [hsplit, List.append_assoc, List.cons_append, List.pairwise_append, List.pairwise_cons] at hi
  -- A write behind the removal would be newer than it.
  have behind : ∀ w, .write w ∈ rest ++ c.outstanding → .write w ∈ issued log → False := fun w hw hm =>
    Nat.lt_asymm (h.generation_lt hcloses hm) (hi.2.1.1 _ hw)
  refine ⟨fun w hw => ?_, first, rest, hsplit, fun t ht w => ?_⟩
  · exact behind w (List.mem_append_right _ hw) (h.mem_issued_iff.mpr (Or.inr (Or.inl hw)))
  · rintro rfl
    refine behind w (List.mem_append_left _ ht) (h.mem_issued_iff.mpr (Or.inl ?_))
    rw [hsplit]
    exact List.mem_append_right _ (List.mem_cons_of_mem _ ht)

/-- A removal that stands in line no more has been carried out. -/
theorem ended_of_not_inLine (h : Orderly log c) (hg : .clear g key ∈ issued log) (hl : c.inLine g = false) :
    .ended (.clear g key) ∈ log := by
  rcases h.mem_issued_iff.mp hg with hdone | hleft | ⟨w, -, hw⟩
  · exact mem_carriedOut.mp hdone
  · rcases List.mem_append.mp hleft with hline | hwaits
    · have := List.any_eq_false.mp hl _ hline
      exact absurd (beq_self_eq_true g) this
    · obtain ⟨w, -, hw⟩ := List.mem_map.mp hwaits
      cases hw
  · cases hw

/-- A turn that was asked for has been carried out before a newer one comes first. -/
theorem carriedOut_of_newer (h : Orderly log c) (hg : .clear g key ∈ issued log) {t : Turn} {rest : List Turn}
    (hl : c.line = t :: rest) (ht : g < t.generation) : .clear g key ∈ carriedOut log := by
  rcases h.mem_issued_iff.mp hg with hdone | hleft | ⟨w, -, hw⟩
  · exact hdone
  · have hi := (List.pairwise_append.mp h.increasing_turns).2.1
    rw [outstanding, hl, List.cons_append] at hi hleft
    rcases List.mem_cons.mp hleft with rfl | hleft
    · exact absurd ht (Nat.lt_irrefl _)
    · exact absurd ht (Nat.lt_asymm ((List.pairwise_cons.mp hi).1 _ hleft))
  · cases hw

end Orderly

end Cache

namespace TimedCache
open Cache

section
variable {window : Nat} {conduct : Conduct} {store : Entries Answers} {clock : Nat} {log : List Event}
  {t : TimedCache} {before between after waiting later : List Event} {e : Event} {g : Nat} {key : String}
  {o : Option Write}

namespace Reaches

/-- The store turns to nobody before it is done with the one that it was at. -/
theorem ended_between {a b : Turn} (h : Reaches window conduct (new store clock) log t)
    (hlog : log = before ++ .began a :: (between ++ .began b :: after)) : .ended a ∈ between := by
  rw [hlog, ← List.cons_append, ← List.append_assoc] at h
  obtain ⟨t₁, t₂, h₁, hc, -⟩ := h.split_at
  by_contra hnot
  have busy : Busy (before ++ .began a :: between) a := ⟨before, between, rfl, hnot⟩
  rw [h₁.serves.busy] at busy
  rcases h₁.serves.cases_of_change hc with ⟨_, -, hidle, -⟩ | ⟨_, he, -⟩ | ⟨he, -⟩
  · rw [hidle] at busy
    cases busy
  · cases he
  · exact (he b).1 rfl

/-- The store is at no write once a removal has been carried out, until a write is asked for. -/
theorem not_write_of_removed {w : Write} (h : Reaches window conduct (new store clock) log t)
    (hlog : log = before ++ .cleared g key o :: (waiting ++ .ended (.clear g key) :: later))
    (hnone : ∀ w o, .scheduled w o ∉ waiting ++ later) (he : e ∈ later) : e.turn? ≠ some (.write w) := by
  intro hturn
  obtain ⟨earlier, rest, rfl⟩ := List.append_of_mem he
  have hsplit : log = (before ++ .cleared g key o :: (waiting ++ .ended (.clear g key) :: earlier)) ++ e :: rest := by
    simp [hlog]
  rw [hsplit] at h
  obtain ⟨t₁, t₂, h₁, hc, -⟩ := h.split_at
  have hcloses : Closes key (before ++ .cleared g key o :: (waiting ++ .ended (.clear g key) :: earlier)) g := by
    refine ⟨before, o, _, rfl, fun w o hw => hnone w o ?_⟩
    simp only [List.mem_append, List.mem_cons, reduceCtorEq, false_or] at hw ⊢
    rcases hw with hw | hw
    · exact Or.inl hw
    · exact Or.inr (Or.inl hw)
  exact (h₁.orderly.carriedOut_split hcloses (mem_carriedOut.mpr (by simp))).1 w (hc.turn_mem hturn)

/-- The entry of a removal that has been carried out stays away until a write is asked for. -/
theorem get?_eq_none_of_removed (works : ∀ turn, conduct.works turn = true)
    (h : Reaches window conduct (new store clock) log t) (hcloses : Closes key log g)
    (hdone : .ended (.clear g key) ∈ log) : t.cache.store.get? key = none := by
  obtain ⟨-, first, rest, hsplit, hrest⟩ := h.orderly.carriedOut_split hcloses (mem_carriedOut.mpr hdone)
  have hstore : t.cache.store = applyAll rest ((applyAll first store).erase key) := by
    rw [h.store_eq works, hsplit, applyAll_append]
    rfl
  rw [hstore]
  rcases get?_applyAll_of_clears ((applyAll first store).erase key) key hrest with hget | ⟨hget, -⟩
  · rw [hget, Entries.get?_erase, if_pos rfl]
  · exact hget

/-- A write is carried out after the removals that were asked for before it. -/
theorem removed_of_turn {w : Write} {o' : Option Write} {earlier rest : List Event}
    (h : Reaches window conduct (new store clock) log t)
    (hlog : log = before ++ .cleared g key o :: (between ++ .scheduled w o' :: (earlier ++ e :: rest)))
    (he : e = .began (.write w) ∨ e = .ended (.write w)) :
    .ended (.clear g key) ∈ between ++ earlier ∧ .ended (.clear g key) ∉ rest := by
  have hsplit : log = (before ++ .cleared g key o :: (between ++ .scheduled w o' :: earlier)) ++ e :: rest := by
    simp [hlog]
  have turns := h.orderly.increasing_turns
  rw [hsplit] at h
  obtain ⟨t₁, t₂, h₁, hc, -⟩ := h.split_at
  obtain ⟨queue, hl⟩ := hc.line_of_turn he
  -- The removal is older than the write, so it cannot stand behind it.
  have hlt : g < w.generation :=
    h₁.orderly.lt_of_later (u := .clear g key) rfl (mem_issued_split.mpr (Or.inr (Or.inl rfl)))
  have hdone : .clear g key ∈ carriedOut (before ++ .cleared g key o :: (between ++ .scheduled w o' :: earlier)) :=
    h₁.orderly.carriedOut_of_newer (mem_issued_split.mpr (Or.inr (Or.inl rfl))) hl hlt
  constructor
  · have hended := mem_carriedOut.mp hdone
    simp only [List.mem_append, List.mem_cons, reduceCtorEq, false_or] at hended ⊢
    rcases hended with hbefore | hended
    · obtain ⟨t₀, h₀, -⟩ := h₁.split
      have hissued := h₀.orderly.mem_issued_iff.mpr (Or.inl (mem_carriedOut.mpr hbefore))
      exact absurd (h₁.orderly.lt_of_earlier hissued rfl) (Nat.lt_irrefl g)
    · exact hended
  · intro hagain
    rw [hsplit, carriedOut, List.filterMap_append] at turns
    have apart := (List.pairwise_append.mp (List.pairwise_append.mp turns).1).2.2 _ hdone (.clear g key)
    refine absurd (apart (mem_carriedOut.mpr ?_)) (Nat.lt_irrefl g)
    exact List.mem_cons_of_mem _ hagain

end Reaches

/-- In every run of a cache over a store that never fails, at whatever pace: the store turns to nobody before it is
done with the one that it was at. Once a removal has been carried out, and as long as no write has been asked for
since the removal was, the store turns to no write, the entry stays away, and other entries change by further removals
only. And a write that is asked for after a removal is not begun before the removal has been carried out, which does
not happen again. -/
theorem clear_is_final (works : ∀ turn, conduct.works turn = true)
    (h : Reaches window conduct (new store clock) log t) :
    (∀ before between after a b, log = before ++ .began a :: (between ++ .began b :: after) → .ended a ∈ between) ∧
    (∀ before waiting later g key o,
      log = before ++ .cleared g key o :: (waiting ++ .ended (.clear g key) :: later) →
      (∀ w o, .scheduled w o ∉ waiting ++ later) →
      (∀ w, .began (.write w) ∉ later ∧ .ended (.write w) ∉ later) ∧
      t.cache.store.get? key = none ∧
      ∃ returned, Reaches window conduct (new store clock)
          (before ++ .cleared g key o :: (waiting ++ [.ended (.clear g key)])) returned ∧
        Reaches window conduct returned later t ∧
        ∀ other, t.cache.store.get? other = returned.cache.store.get? other ∨
          t.cache.store.get? other = none ∧ ∃ g', .ended (.clear g' other) ∈ later) ∧
    ∀ before between earlier rest g key o w o' e,
      log = before ++ .cleared g key o :: (between ++ .scheduled w o' :: (earlier ++ e :: rest)) →
      e = .began (.write w) ∨ e = .ended (.write w) →
      .ended (.clear g key) ∈ between ++ earlier ∧ .ended (.clear g key) ∉ rest := by
  refine ⟨fun before between after a b hlog => h.ended_between hlog, fun before waiting later g key o hlog hnone => ?_,
    fun before between earlier rest g key o w o' e hlog he => h.removed_of_turn hlog he⟩
  have nothing : ∀ e ∈ later, ∀ w, e.turn? ≠ some (.write w) := fun e he w => h.not_write_of_removed hlog hnone he
  refine ⟨fun w => ⟨fun hw => nothing _ hw w rfl, fun hw => nothing _ hw w rfl⟩, ?_, ?_⟩
  · refine h.get?_eq_none_of_removed works ⟨before, o, _, hlog, fun w o hw => hnone w o ?_⟩ (by simp [hlog])
    simpa using hw
  · have hsplit : log = (before ++ .cleared g key o :: (waiting ++ [.ended (.clear g key)])) ++ later := by
      simp [hlog]
    rw [hsplit] at h
    obtain ⟨returned, h₁, h₂⟩ := h.split
    have clears : ∀ turn ∈ carriedOut later, ∀ w, turn ≠ .write w := by
      rintro turn ht w rfl
      exact nothing _ (mem_carriedOut.mp ht) w rfl
    refine ⟨returned, h₁, h₂, fun other => ?_⟩
    rw [h₂.store_eq works]
    rcases get?_applyAll_of_clears returned.cache.store other clears with hget | ⟨hget, g', hg'⟩
    · exact Or.inl hget
    · exact Or.inr ⟨hget, g', mem_carriedOut.mp hg'⟩

end

/-- A removal while the store is at a write, a write that is asked for while the removal waits, and a last removal:
the second write is carried out after the first removal, and the entry stays away after the last one. -/
theorem clear_is_final_of_overlap :
    let first : Write := ⟨1, "k", ∅⟩
    let second : Write := ⟨3, "k", ∅⟩
    let before : List Event := [.scheduled first none, .elapsed first, .began (.write first)]
    let earlier : List Event :=
      [.elapsed second, .ticked, .ended (.write first), .began (.clear 2 "k"), .ticked, .ended (.clear 2 "k"),
        .began (.write second), .ticked]
    let rest : List Event := [.cleared 4 "k" none, .began (.clear 4 "k"), .ticked, .ended (.clear 4 "k")]
    ∃ t, Reaches 0 slow (new ∅ 0)
        (before ++ .cleared 2 "k" none :: ([] ++ .scheduled second none :: (earlier ++ .ended (.write second) :: rest)))
        t ∧
      .ended (.clear 2 "k") ∈ earlier ∧ t.cache.store.get? "k" = none := by
  intro first second before earlier rest
  obtain ⟨t, h⟩ : ∃ t, Reaches 0 slow (new ∅ 0)
      (before ++ .cleared 2 "k" none :: ([] ++ .scheduled second none :: (earlier ++ .ended (.write second) :: rest)))
      t :=
    ⟨_, Reaches.of_follow? [.schedule "k" ∅, .move .queue, .move .serve, .clear "k", .schedule "k" ∅, .move .queue,
      .tick, .move .finish, .move .serve, .tick, .move .finish, .move .serve, .tick, .move .finish, .clear "k",
      .move .serve, .tick, .move .finish] rfl⟩
  obtain ⟨-, final, later⟩ := clear_is_final (fun _ => rfl) h
  refine ⟨t, h, (later before [] earlier rest 2 "k" none second none _ rfl (Or.inr rfl)).1, ?_⟩
  refine (final (before ++ .cleared 2 "k" none :: .scheduled second none :: (earlier ++ [.ended (.write second)]))
    [.began (.clear 4 "k"), .ticked] [] 4 "k" none rfl (by simp)).2.1

end TimedCache

end Questionnaire
