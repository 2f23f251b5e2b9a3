import Questionnaire.Grammars.Builtin
import Questionnaire.Proofs.Session.Answering
import Questionnaire.Proofs.Session.Trace

/-!
# An answer that presses the button

An answer that ends its page comes to what a request to go on with that answer comes to, although the one records it
in a section of its own and the other brings it along. Any other answer is recorded, and nothing else happens.
`EndsPage` says by the blocks that can be seen which answers those are.
-/

namespace Questionnaire

/-! ### Pages that move on by themselves -/

/-- Something is entered or picked at the block. -/
def Block.IsQuestion (b : Block) : Prop :=
  b.kind = .textInput ∨ b.kind = .multipleChoice ∨ b.kind = .dropdown ∨ b.kind = .pictureChoice

/-- One pick settles the block. -/
def Block.IsPick (b : Block) : Prop :=
  b.kind = .loader ∨ b.kind = .dropdown ∨
    ((b.kind = .multipleChoice ∨ b.kind = .pictureChoice) ∧ b.properties.get? "multiple" ≠ some (.bool true))

/-- An answer to the block of that id ends the page on which these blocks can be seen. -/
structure EndsPage (id : String) (blocks : List Block) : Prop where
  shown : ∃ b ∈ blocks, b.id = id
  sole : blocks.Pairwise fun b b' => ¬ (b.IsQuestion ∧ b'.IsQuestion)
  pick : ∃ b ∈ blocks, b.IsPick

namespace Block
variable {b : Block}

theorem isAnswerable_iff : b.kind.isAnswerable = true ↔ b.IsQuestion := by
  unfold IsQuestion
  cases b.kind <;> simp [BlockKind.isAnswerable]

theorem isMultiple_iff : b.isMultiple = true ↔ b.properties.get? "multiple" = some (.bool true) := by
  unfold isMultiple
  cases b.properties.get? "multiple" with
  | none => simp
  | some v => cases v <;> simp [Json.bool?]

theorem advancesItself_iff : b.advancesItself = true ↔ b.IsPick := by
  have hmultiple : (!b.isMultiple) = true ↔ b.properties.get? "multiple" ≠ some (.bool true) := by
    rw [Bool.not_eq_true', ← Bool.not_eq_true, isMultiple_iff]
  unfold advancesItself IsPick
  cases b.kind <;> simp [hmultiple]

end Block

theorem countP_le_one_iff {α : Type} {p : α → Bool} {P : α → Prop} (hp : ∀ a, p a = true ↔ P a) {xs : List α} :
    xs.countP p ≤ 1 ↔ xs.Pairwise fun a b => ¬ (P a ∧ P b) := by
  induction xs with
  | nil => simp
  | cons x rest ih =>
    rw [List.pairwise_cons, ← ih]
    by_cases hx : p x = true
    · have hnone : rest.countP p = 0 ↔ ∀ b ∈ rest, ¬ P b := by
        simp only [List.countP_eq_zero, hp]
      have hzero : rest.countP p + 1 ≤ 1 ↔ rest.countP p = 0 := by omega
      rw [List.countP_cons_of_pos hx, hzero, hnone]
      constructor
      · intro h
        exact ⟨fun b hb hboth => h b hb hboth.2, by rw [hnone.mpr h]; exact Nat.zero_le 1⟩
      · intro h b hb hb'
        exact h.1 b hb ⟨(hp x).mp hx, hb'⟩
    · rw [List.countP_cons_of_neg hx]
      refine (and_iff_right fun b _ hboth => ?_).symm
      exact hx ((hp x).mpr hboth.1)

theorem set_concat_length {α : Type} (xs : List α) (a b : α) : (xs ++ [a]).set xs.length b = xs ++ [b] := by
  rw [List.set_append_right _ _ (Nat.le_refl _), Nat.sub_self, List.set_cons_zero]

theorem shouldAutoAdvance_iff [Grammars] {blocks : List Block} : shouldAutoAdvance blocks = true ↔
    (blocks.Pairwise fun b b' => ¬ (b.IsQuestion ∧ b'.IsQuestion)) ∧ ∃ b ∈ blocks, b.IsPick := by
  rw [shouldAutoAdvance, Bool.and_eq_true, decide_eq_true_iff, countP_le_one_iff fun b => Block.isAnswerable_iff,
    List.any_eq_true]
  simp only [Block.advancesItself_iff]

namespace Session
variable [Grammars] {d : Document} {s : Session} {i : Nat} {id : String} {v : Json}

theorem advancesOn_iff : s.advancesOn d i id = true ↔ EndsPage id (s.visible d i) := by
  rw [advancesOn, Bool.and_eq_true, shouldAutoAdvance_iff, List.any_eq_true]
  simp only [beq_iff_eq]
  constructor
  · rintro ⟨shown, sole, pick⟩
    exact ⟨shown, sole, pick⟩
  · rintro ⟨shown, sole, pick⟩
    exact ⟨shown, sole, pick⟩

/-- It makes no difference for a departure whether an answer has been recorded just before or comes with it. -/
theorem depart_recorded (hi : s.phase = .active i) (d : Document) (id : String) (v : Json) :
    depart d ∅ { s with answers := s.answers.insert id v } = s.depart d (Entries.ofList [(id, v)]) := by
  simp only [depart, hi]
  rfl

theorem record_of_endsPage (hi : s.phase = .active i) (hends : EndsPage id (s.visible d i)) (v : Json) :
    s.record d id v = some ({ s with answers := s.answers.insert id v }, true) := by
  rw [record_of_active hi, advancesOn_iff.mpr hends]

theorem leaving_isSome (d : Document) (submitted : Answers) (s : Session) :
    (s.leaving d submitted).answer.isSome = true := by
  unfold leaving
  generalize s.depart d submitted = departed
  obtain ⟨s', decision⟩ := departed
  cases decision <;> rfl

end Session

namespace Stage
variable [Grammars] {setup : Setup} {s : Session} {i : Nat} {id : String}

/-- What comes of an answer that ends its page is what comes of a request to go on with it. -/
theorem conclude_of_endsPage {d : Document} (hi : s.phase = .active i) (hends : EndsPage id (s.visible d i))
    (v : Json) : (record id v).conclude d s = (depart (Entries.ofList [(id, v)])).conclude d s := by
  simp only [conclude, Session.record_of_endsPage hi hends, if_true, Session.leaving, Session.depart_recorded hi]

theorem trace_of_endsPage (hi : s.phase = .active i) (hends : EndsPage id (s.visible setup.document i)) (v : Json)
    (τ : Trace) : (record id v).trace setup s τ = (depart (Entries.ofList [(id, v)])).trace setup s τ := by
  simp only [trace, Session.record_of_endsPage hi hends, Trace.leave, Session.depart_recorded hi]

end Stage

namespace Run

/-- The runs differ at most in what is pending or cached and in when things were done: the sessions are the same
otherwise, the observers were told the same, and the same was handed to the sinks. -/
structure Indistinct (r r' : Run) : Prop where
  core : r'.session.core = r.session.core
  trace : r'.trace = r.trace

/-- After its first section the call is where a request to go on with nothing new begins, and completes from there. -/
def GoesOn [Grammars] (setup : Setup) (n : Nat) (r : Run) (t : Option Transition) (r' : Run) : Prop :=
  ∃ r₁ r₂, Waits setup r r₁ ∧ r₁.move? setup (.advance n) = some r₂ ∧ r₂.calls[n]? = some (Call.next ∅).stage ∧
    Completes setup n r₂ t r'

section
variable [Grammars] {setup : Setup} {store : Entries Answers} {given : Answers} {log : List Passage} {r r' r₁ r₂ : Run}
  {n i : Nat}
  {id : String} {v : Json} {t : Option Transition}

/-- The section that records an answer on an active page. -/
theorem move?_record (hn : r.calls[n]? = some (.record id v)) (hi : r.session.phase = .active i) :
    r.move? setup (.advance n) =
      some { cacheAnswers setup { r with session := { r.session with answers := r.session.answers.insert id v } } with
        calls := r.calls.set n (if r.session.advancesOn setup.document i id then .depart ∅ else .done none) } :=
  (Acts.recorded hi).move? hn

/-- A call that is to record an answer goes on just if the answer ends the page. -/
theorem Completes.goesOn_iff (h : Completes setup n r t r') (hn : r.calls[n]? = some (.record id v))
    (hi : r.session.phase = .active i) :
    GoesOn setup n r t r' ↔ EndsPage id (r.session.visible setup.document i) := by
  have hlt := (List.getElem?_eq_some_iff.mp hn).1
  -- The section finds the session and the calls as they were when the call was made.
  have hsection : ∀ {r₁ r₂ : Run}, Waits setup r r₁ → r₁.move? setup (.advance n) = some r₂ →
      r₂.calls[n]? = some (if r.session.advancesOn setup.document i id then .depart ∅ else .done none) := by
    intro r₁ r₂ hwaits hmove
    obtain ⟨hsession, hcalls, -⟩ := hwaits.still
    rw [move?_record (hcalls ▸ hn) (hsession ▸ hi), hsession] at hmove
    obtain rfl := Option.some.inj hmove
    exact List.getElem?_set_self (by rw [hcalls]; exact hlt)
  rw [← Session.advancesOn_iff]
  constructor
  · rintro ⟨r₁, r₂, hwaits, hmove, hnext, -⟩
    rw [hsection hwaits hmove] at hnext
    by_contra hnot
    rw [if_neg hnot] at hnext
    cases hnext
  · intro hends
    obtain ⟨r₁, r₂, hwaits, hmove, hrest⟩ := h.first hn fun t ht => by cases ht
    refine ⟨r₁, r₂, hwaits, hmove, ?_, hrest⟩
    rw [hsection hwaits hmove, if_pos hends]
    rfl

/-- A call that ends with its first section waits, goes through it, and is done. -/
theorem Completes.of_last {stage : Stage} {t₁ : Option Transition} {f : Run → Run} (h : Completes setup n r t r')
    (hn : r.calls[n]? = some stage) (hstage : ∀ t, stage ≠ .done t)
    (hlast : ∀ r₁ : Run, r₁.session = r.session → r₁.calls = r.calls →
      r₁.move? setup (.advance n) = some (f r₁) ∧ (f r₁).calls = r.calls.set n (.done t₁)) :
    t = t₁ ∧ ∃ r₁, Waits setup r r₁ ∧ Waits setup (f r₁) r' := by
  obtain ⟨r₁, r₂, hwaits, hmove, hrest⟩ := h.first hn hstage
  obtain ⟨hsection, hcalls⟩ := hlast r₁ hwaits.still.session hwaits.still.calls
  rw [hsection] at hmove
  obtain rfl := Option.some.inj hmove
  have hdone : (f r₁).calls[n]? = some (.done t₁) := by
    rw [hcalls]
    exact List.getElem?_set_self (List.getElem?_eq_some_iff.mp hn).1
  obtain ⟨ht, hafter⟩ := hrest.of_done hdone
  exact ⟨ht, r₁, hwaits, hafter⟩

/-- An answer that ends no page is recorded, and cached, and that is all. -/
theorem Completes.of_recorded (h : Completes setup n r t r') (hn : r.calls[n]? = some (.record id v))
    (hi : r.session.phase = .active i) (hnot : ¬ EndsPage id (r.session.visible setup.document i)) :
    t = none ∧ ∃ r₁, Waits setup r r₁ ∧
      Waits setup
        { cacheAnswers setup { r₁ with session := { r.session with answers := r.session.answers.insert id v } } with
          calls := r.calls.set n (.done none) } r' := by
  rw [← Session.advancesOn_iff] at hnot
  refine h.of_last hn (fun t ht => by cases ht) fun r₁ hsession hcalls => ⟨?_, rfl⟩
  rw [move?_record (hcalls ▸ hn) (hsession ▸ hi), hsession, hcalls, if_neg hnot]

theorem Completes.of_not_active (h : Completes setup n r t r') (hn : r.calls[n]? = some (.record id v))
    (hp : r.session.phase.isActive = false) :
    t = none ∧ ∃ r₁, Waits setup r r₁ ∧ Waits setup { r₁ with calls := r.calls.set n (.done none) } r' := by
  refine h.of_last hn (fun t ht => by cases ht) fun r₁ hsession hcalls => ⟨?_, rfl⟩
  rw [move?_refused (hsession ▸ hp) (hcalls ▸ hn) rfl, hcalls]

/-- The call has an answer itself just if the answer that it records ends the page. -/
theorem Completes.isSome_iff (h : Completes setup n r t r') (hn : r.calls[n]? = some (.record id v))
    (hi : r.session.phase = .active i) : t.isSome = true ↔ EndsPage id (r.session.visible setup.document i) := by
  constructor
  · intro hsome
    by_contra hnot
    rw [(h.of_recorded hn hi hnot).1] at hsome
    cases hsome
  · intro hends
    obtain ⟨news, -, hcomes⟩ := h.concludes hn
    rw [Stage.conclude_of_endsPage hi hends] at hcomes
    have hsome := Session.leaving_isSome setup.document (Entries.ofList [(id, v)]) r.session
    rw [Stage.conclude] at hcomes
    rw [hcomes] at hsome
    exact hsome

/-- Calls that are there to record an answer that ends its page, and to go on with that answer, come to the same. -/
theorem Completes.indistinct {n' : Nat} {r₃ : Run} {t' : Option Transition} {log' : List Passage}
    (h : Completes setup n r t r') (hr : Reaches setup (start setup store given) log r)
    (hn : r.calls[n]? = some (.record id v)) (h' : Completes setup n' r₂ t' r₃)
    (hr' : Reaches setup (start setup store given) log' r₂)
    (hn' : r₂.calls[n']? = some (.depart (Entries.ofList [(id, v)])))
    (hsession : r₂.session = r.session) (htrace : r₂.trace = r.trace) (hi : r.session.phase = .active i)
    (hends : EndsPage id (r.session.visible setup.document i)) : t' = t ∧ Indistinct r' r₃ := by
  obtain ⟨news, -, hcomes⟩ := h.concludes hn
  obtain ⟨news', -, hcomes'⟩ := h'.concludes hn'
  rw [hsession, ← Stage.conclude_of_endsPage hi hends, hcomes] at hcomes'
  obtain ⟨hcore, rfl, -⟩ := Conclusion.mk.inj hcomes'
  have hleft : r₃.trace = r'.trace := by
    rw [h'.trace hr' hn', hsession, htrace, ← Stage.trace_of_endsPage hi hends, h.trace hr hn]
  exact ⟨rfl, hcore.symm, hleft⟩

/-- What a completed page sets going does not depend on the cache and the calls, and does not touch them. -/
theorem complete_beside (setup : Setup) (completion : Completion) (r : Run) (cache : Cache) (calls : List Stage) :
    complete setup completion { r with cache := cache, calls := calls } =
      ({ (r.complete setup completion).1 with cache := cache, calls := calls }, (r.complete setup completion).2) := by
  have hreenter : (tell (.completed completion) { r with cache := cache, calls := calls }).reenter setup =
      { (r.tell (.completed completion)).reenter setup with cache := cache, calls := calls } := by
    simp only [reenter, tell]
    cases setup.observer.inside (r.events ++ [.completed completion]) <;> rfl
  unfold complete
  rw [hreenter]
  cases setup.sink with
  | none => rfl
  | some sink => cases completion.answers.isEmpty <;> rfl

theorem advance?_depart_beside {s : Session} {submitted submitted' : Answers}
    (hdepart : s.depart setup.document submitted' = r.session.depart setup.document submitted) (cache : Cache)
    (calls : List Stage) :
    advance? setup (.depart submitted') { r with session := s, cache := cache, calls := calls } =
      (r.advance? setup (.depart submitted)).map fun advanced =>
        ({ advanced.1 with cache := cache, calls := calls }, advanced.2) := by
  simp only [advance?, hdepart]
  generalize r.session.depart setup.document submitted = departed
  obtain ⟨s', decision⟩ := departed
  cases decision with
  | ignored | invalid => rfl
  | departed departure =>
    obtain ⟨completion, destination⟩ := departure
    cases completion with
    | none => rfl
    | some c =>
      have hcomplete := complete_beside setup c { r with session := s' } cache calls
      simp only [hcomplete]
      generalize complete setup c { r with session := s' } = completed
      obtain ⟨r', made⟩ := completed
      cases made <;> rfl

/-- Without delay, both ways of leaving the page come to the same run but for the cache. -/
theorem departs_at_once (hi : r.session.phase = .active i) (hends : EndsPage id (r.session.visible setup.document i))
    (v : Json) : ∃ recorded left left',
      move? setup (.advance r.calls.length) { r with calls := r.calls ++ [.record id v] } = some recorded ∧
      recorded.move? setup (.advance r.calls.length) = some left ∧
      move? setup (.advance r.calls.length) { r with calls := r.calls ++ [.depart (Entries.ofList [(id, v)])] } =
        some left' ∧
      left = { left' with cache := left.cache } := by
  obtain ⟨r', stage', acts⟩ := Acts.exists_depart setup r (Entries.ofList [(id, v)])
  have hrecord : move? setup (.advance r.calls.length) { r with calls := r.calls ++ [.record id v] } = _ :=
    move?_record List.getElem?_concat_length hi
  rw [if_pos (Session.advancesOn_iff.mpr hends), set_concat_length] at hrecord
  have hleft := advance?_depart_beside (Session.depart_recorded hi setup.document id v)
    (cacheAnswers setup { r with session := { r.session with answers := r.session.answers.insert id v } }).cache
    (r.calls ++ [.depart ∅])
  have hleft' : advance? setup (.depart (Entries.ofList [(id, v)]))
      { r with calls := r.calls ++ [.depart (Entries.ofList [(id, v)])] } = _ := advance?_depart_beside rfl r.cache _
  rw [acts.advance?, Option.map_some] at hleft hleft'
  refine ⟨_, _, _, hrecord, (Acts.of_advance? hleft).move? List.getElem?_concat_length,
    (Acts.of_advance? hleft').move? List.getElem?_concat_length, ?_⟩
  simp only [set_concat_length]

/-- **An answer presses the button.** In every run, take an answer that is given to be recorded, and the same answer
given with a request to go on. Either call can complete. While a page is active, the first call goes on just if the
answer ends the page, and just then it has an answer itself: that of the second call, and the runs in which they have
completed are indistinct. If neither has to wait, the page is left alike in every respect but what is to be cached. If
the answer does not end the page, it is recorded, its caching is scheduled, and nothing else happens. While no page is
active, nothing happens at all. -/
theorem answer_presses_button (h : Reaches setup (start setup store given) log r)
    (hset : r.move? setup (.call (.set id v)) = some r₁)
    (hnext : r.move? setup (.call (.next (Entries.ofList [(id, v)]))) = some r₂) :
    let n := r.calls.length
    (∃ t r', Completes setup n r₁ t r') ∧ (∃ t r', Completes setup n r₂ t r') ∧
    (∀ i, r.session.phase = .active i →
      let ends := EndsPage id (r.session.visible setup.document i)
      (∀ t r', Completes setup n r₁ t r' →
        (GoesOn setup n r₁ t r' ↔ ends) ∧ (t.isSome = true ↔ ends) ∧
        (ends → ∀ t' r'', Completes setup n r₂ t' r'' → t' = t ∧ Indistinct r' r'') ∧
        (¬ ends → r'.session = { r.session with answers := r.session.answers.insert id v } ∧ r'.trace = r.trace ∧
          ∃ before, Waits setup r₁ before ∧
            Waits setup { cacheAnswers setup { before with session := r'.session } with
              calls := r.calls ++ [.done none] } r')) ∧
      (ends → ∃ recorded left left', r₁.move? setup (.advance n) = some recorded ∧
        recorded.move? setup (.advance n) = some left ∧ r₂.move? setup (.advance n) = some left' ∧
        left = { left' with cache := left.cache })) ∧
    ∀ t r', r.session.phase.isActive = false → Completes setup n r₁ t r' →
      t = none ∧ r'.session = r.session ∧ r'.trace = r.trace ∧
        ∃ before, Waits setup r₁ before ∧ Waits setup { before with calls := r.calls ++ [.done none] } r' := by
  have hr₁ := h.step _ hset
  have hr₂ := h.step _ hnext
  obtain rfl := Option.some.inj hset
  obtain rfl := Option.some.inj hnext
  have hn₁ : (r.calls ++ [Stage.record id v])[r.calls.length]? = some (.record id v) := List.getElem?_concat_length
  have hn₂ : (r.calls ++ [Stage.depart (Entries.ofList [(id, v)])])[r.calls.length]? =
      some (.depart (Entries.ofList [(id, v)])) := List.getElem?_concat_length
  have hcalls := set_concat_length r.calls (.record id v) (.done none)
  intro n
  refine ⟨hr₁.completes hn₁, hr₂.completes hn₂, ?_, ?_⟩
  · intro i hi ends
    refine ⟨fun t r' hset => ?_, fun hends => departs_at_once hi hends v⟩
    refine ⟨hset.goesOn_iff hn₁ hi, hset.isSome_iff hn₁ hi, fun hends t' r'' hnext => ?_, fun hnot => ?_⟩
    · exact hset.indistinct hr₁ hn₁ hnext hr₂ hn₂ rfl rfl hi hends
    · obtain ⟨-, before, hbefore, hafter⟩ := hset.of_recorded hn₁ hi hnot
      have hsession := hafter.still.session
      refine ⟨hsession, hafter.trace.trans hbefore.trace, before, hbefore, ?_⟩
      rw [hsession, ← hcalls]
      exact hafter
  · intro t r' hp hset
    obtain ⟨ht, before, hbefore, hafter⟩ := hset.of_not_active hn₁ hp
    refine ⟨ht, hafter.still.session.trans hbefore.still.session, ?_, before, hbefore, ?_⟩
    · exact hafter.trace.trans hbefore.trace
    · rw [← hcalls]
      exact hafter

end

/-- The page that moves on with its answer, with a slow sink and an observer that calls from inside. -/
def watched : Setup :=
  { clicked with
    sink := some { time := fun _ => 3, accepts := fun _ => false }
    observer := { time := 2, inside := fun _ => [.previous] } }

open scoped Grammars in
/-- The dropdown presses the button, and an answer to a block that is not there does not. -/
theorem dropdown_presses_button :
    let page := (start watched ∅ ∅).session.visible watched.document 0
    let set := fun id => { start watched ∅ ∅ with calls := [.record id (.text "a")] }
    let next := { start watched ∅ ∅ with calls := [.depart (Entries.ofList [("pick", .text "a")])] }
    (EndsPage "pick" page ∧ ∃ t r' t' r'', Completes watched 0 (set "pick") t r' ∧ GoesOn watched 0 (set "pick") t r' ∧
      Completes watched 0 next t' r'' ∧ t.isSome = true ∧ t' = t ∧ Indistinct r' r'') ∧
    ¬ EndsPage "other" page ∧ ∃ r', Completes watched 0 (set "other") none r' ∧
      r'.session.answers.get? "other" = some (.text "a") ∧ r'.trace = (start watched ∅ ∅).trace := by
  intro page set next
  have hends : EndsPage "pick" page :=
    ⟨⟨_, List.mem_cons_self, rfl⟩, List.pairwise_singleton _ _, ⟨_, List.mem_cons_self, Or.inr (Or.inl rfl)⟩⟩
  have hnot : ¬ EndsPage "other" page := by
    rintro ⟨⟨b, hb, hid⟩, -, -⟩
    obtain rfl := List.mem_singleton.mp hb
    exact absurd hid (by decide)
  refine ⟨⟨hends, ?_⟩, hnot, ?_⟩
  · have hcall : (start watched ∅ ∅).move? watched (.call (.set "pick" (.text "a"))) = some (set "pick") := rfl
    obtain ⟨⟨t, r', hset⟩, ⟨t', r'', hnext⟩, hactive, -⟩ := answer_presses_button Reaches.refl hcall rfl
    obtain ⟨hgoes, hsome, hsame, -⟩ := (hactive 0 rfl).1 t r' hset
    obtain ⟨heq, hindistinct⟩ := hsame hends t' r'' hnext
    exact ⟨t, r', t', r'', hset, hgoes.mpr hends, hnext, hsome.mpr hends, heq, hindistinct⟩
  · have hcall : (start watched ∅ ∅).move? watched (.call (.set "other" (.text "a"))) = some (set "other") := rfl
    obtain ⟨⟨t, r', hset⟩, -, hactive, -⟩ := answer_presses_button Reaches.refl hcall rfl
    obtain ⟨-, hsome, -, hrecorded⟩ := (hactive 0 rfl).1 t r' hset
    obtain ⟨hsession, htrace, -⟩ := hrecorded hnot
    obtain rfl : t = none := by
      cases t with
      | none => rfl
      | some t => exact absurd (hsome.mp rfl) hnot
    exact ⟨r', hset, by rw [hsession]; rfl, htrace⟩

end Run

end Questionnaire
