import Questionnaire.Template
import Questionnaire.Proofs.Text.Trim

/-!
# The pattern of a token

A token is found with a pattern: two braces, white space, one of two words, a colon, a name with white space around it
and two braces. A pattern can match in several ways, for its runs of characters may end at several places. The ways are
listed as a search with backtracking comes upon them, so that the first one counts. For the pattern of a token that is
the token of `token?`: the first way leaves no white space at the ends of the name.
-/

namespace Questionnaire

namespace Template

/-! ### Patterns -/

/-- A part of a pattern. What a choice and a run to be kept have matched is captured. -/
inductive Part where
  | literal (word : String)
  /-- One of the words, an earlier one rather than a later one. -/
  | choice (words : List String)
  /-- Any number of characters of a kind, preferably many if the run is greedy, preferably few if not. -/
  | run (greedy kept : Bool) (p : Char → Bool)

/-- What has been captured, and what is left of the text. -/
abbrev Way := List String × List Char

/-- The way of a later part, with what an earlier one has captured. -/
def Way.after (kept : List String) (w : Way) : Way := (kept ++ w.1, w.2)

/-- The runs of characters of a kind at the head of a text, each with what follows it, shortest first. -/
def spans (p : Char → Bool) : List Char → List (List Char × List Char)
  | [] => [([], [])]
  | c :: rest => ([], c :: rest) :: if p c then (spans p rest).map fun (taken, after) => (c :: taken, after) else []

/-- The ways in which a part matches at the head of a text, in order of preference. -/
def Part.ways (cs : List Char) : Part → List Way
  | .literal word => ((word.toList.isPrefixOf? cs).map fun after => ([], after)).toList
  | .choice words => words.filterMap fun word => (word.toList.isPrefixOf? cs).map fun after => ([word], after)
  | .run greedy kept p =>
    (if greedy then (spans p cs).reverse else spans p cs).map fun (taken, after) =>
      (if kept then [String.ofList taken] else [], after)

/-- The ways in which a pattern matches at the head of a text: a part goes its next way when all that follow have been
tried with the one before. -/
def ways : List Part → List Char → List Way
  | [], cs => [([], cs)]
  | part :: parts, cs =>
    (part.ways cs).flatMap fun (kept, cs) => (ways parts cs).map (Way.after kept)

/-- The way in which a pattern matches. -/
def first? (parts : List Part) (cs : List Char) : Option Way := (ways parts cs).head?

def TokenKind.word : TokenKind → String
  | .variable => "var"
  | .block => "block"

/-- White space, as much as there is. -/
def Part.blanks : Part := .run true false Text.isBlank

/-- A name up to the white space and the braces behind it. -/
def namePattern : List Part := [.run false true isNotBrace, .blanks, .literal "\x7d\x7d"]

def wordPattern : List Part :=
  .choice [TokenKind.variable.word, TokenKind.block.word] :: .literal ":" :: .blanks :: namePattern

def tokenPattern : List Part := .literal "\x7b\x7b" :: .blanks :: wordPattern

section
variable {p : Char → Bool} {parts : List Part} {cs rest word : List Char}

theorem isPrefixOf?_eq_some_iff : word.isPrefixOf? cs = some rest ↔ cs = word ++ rest := by
  induction word generalizing cs with
  | nil => simp only [List.isPrefixOf?, Option.some.injEq, List.nil_append]
  | cons c word ih =>
    cases cs with
    | nil => simp only [List.isPrefixOf?, reduceCtorEq, List.cons_append]
    | cons d cs =>
      simp only [List.isPrefixOf?, beq_iff_eq, Option.ite_none_right_eq_some, ih, List.cons_append, List.cons.injEq,
        eq_comm (a := c)]

theorem isPrefixOf?_eq_none (h : ∀ rest, cs ≠ word ++ rest) : word.isPrefixOf? cs = none :=
  Option.eq_none_iff_forall_ne_some.mpr fun rest hrest => h rest (isPrefixOf?_eq_some_iff.mp hrest)

/-! ### The first way, part by part -/

theorem map_after_nil (w : Option Way) : w.map (Way.after []) = w := Option.map_id'

theorem first?_cons (part : Part) (parts : List Part) (cs : List Char) :
    first? (part :: parts) cs =
      (part.ways cs).findSome? fun w => (first? parts w.2).map (Way.after w.1) := by
  simp only [first?, ways, List.head?_flatMap, List.head?_map]

theorem first?_literal (word : String) (parts : List Part) (cs : List Char) :
    first? (.literal word :: parts) cs = (word.toList.isPrefixOf? cs).bind fun after => first? parts after := by
  rw [first?_cons, Part.ways]
  cases word.toList.isPrefixOf? cs with
  | none => rfl
  | some after =>
    simp only [Option.map_some, Option.toList_some, List.findSome?_singleton, map_after_nil, Option.bind_some]

theorem first?_choice (words : List String) (parts : List Part) (cs : List Char) :
    first? (.choice words :: parts) cs =
      words.findSome? fun word =>
        (word.toList.isPrefixOf? cs).bind fun after => (first? parts after).map (Way.after [word]) := by
  rw [first?_cons, Part.ways]
  induction words with
  | nil => rfl
  | cons word words ih =>
    rw [List.filterMap_cons, List.findSome?_cons]
    cases word.toList.isPrefixOf? cs with
    | none => exact ih
    | some after =>
      rw [Option.map_some, List.findSome?_cons, ih]
      rfl

theorem mem_spans {s : List Char × List Char} (h : s ∈ spans p cs) : cs = s.1 ++ s.2 ∧ ∀ c ∈ s.1, p c = true := by
  induction cs generalizing s with
  | nil =>
    obtain rfl := List.mem_singleton.mp h
    exact ⟨rfl, List.forall_mem_nil _⟩
  | cons c rest ih =>
    rcases List.mem_cons.mp h with rfl | h
    · exact ⟨rfl, List.forall_mem_nil _⟩
    · split at h
      · rename_i hc
        obtain ⟨t, ht, rfl⟩ := List.mem_map.mp h
        obtain ⟨hrest, hall⟩ := ih ht
        exact ⟨congrArg (c :: ·) hrest, List.forall_mem_cons.mpr ⟨hc, hall⟩⟩
      · cases h

/-- The longest run is the last. -/
theorem spans_eq_concat (p : Char → Bool) (cs : List Char) :
    ∃ shorter, spans p cs = shorter ++ [(cs.takeWhile p, cs.dropWhile p)] := by
  induction cs with
  | nil => exact ⟨[], rfl⟩
  | cons c rest ih =>
    rw [spans]
    split
    · rename_i hc
      obtain ⟨shorter, hshorter⟩ := ih
      refine ⟨([], c :: rest) :: shorter.map fun s => (c :: s.1, s.2), ?_⟩
      rw [hshorter, List.takeWhile_cons_of_pos hc, List.dropWhile_cons_of_pos hc, List.map_append]
      rfl
    · rename_i hc
      exact ⟨[], by rw [List.takeWhile_cons_of_neg hc, List.dropWhile_cons_of_neg hc]; rfl⟩

/-- A greedy run takes all that it can if the pattern goes on from there whenever it goes on from somewhere. -/
theorem first?_greedy
    (h : ∀ taken after, cs = taken ++ after → (∀ c ∈ taken, p c = true) → (first? parts after).isSome = true →
      (first? parts (cs.dropWhile p)).isSome = true) :
    first? (.run true false p :: parts) cs = first? parts (cs.dropWhile p) := by
  obtain ⟨shorter, hspans⟩ := spans_eq_concat p cs
  rw [first?_cons, Part.ways]
  simp only [if_true, Bool.false_eq_true, if_false, List.findSome?_map, hspans, List.reverse_append,
    List.reverse_singleton, List.cons_append, List.nil_append, List.findSome?_cons, Function.comp_def, map_after_nil]
  cases hlongest : first? parts (cs.dropWhile p) with
  | some w => rfl
  | none =>
    refine List.findSome?_eq_none_iff.mpr fun s hs => Option.not_isSome_iff_eq_none.mp fun hsome => ?_
    obtain ⟨hcs, hrun⟩ := mem_spans (hspans ▸ List.mem_append_left _ (List.mem_reverse.mp hs))
    have := h _ _ hcs hrun hsome
    rw [hlongest] at this
    cases this

/-- A greedy run takes all that it can if the pattern does not go on with a character of its kind. -/
theorem first?_greedy_of_not (h : ∀ c rest, p c = true → first? parts (c :: rest) = none) :
    first? (.run true false p :: parts) cs = first? parts (cs.dropWhile p) := by
  refine first?_greedy fun taken after hcs hrun hsome => ?_
  have hafter : cs.dropWhile p = after := by
    rw [hcs, List.dropWhile_append_of_pos hrun]
    cases after with
    | nil => rfl
    | cons c rest =>
      refine List.dropWhile_cons_of_neg fun hc => ?_
      rw [h c rest hc] at hsome
      cases hsome
  rwa [hafter]

/-! ### The name and its end -/

/-- What follows two closing braces. -/
def closed? (cs : List Char) : Option (List Char) := ("\x7d\x7d".toList).isPrefixOf? cs

theorem closed?_of_isNotBrace {c : Char} (h : isNotBrace c = true) (rest : List Char) : closed? (c :: rest) = none := by
  refine isPrefixOf?_eq_none fun after hafter => ?_
  obtain ⟨rfl, -⟩ := List.cons.inj hafter
  cases h

theorem isNotBrace_of_isBlank {c : Char} (h : Text.isBlank c = true) : isNotBrace c = true := by
  refine bne_iff_ne.mpr ?_
  rintro rfl
  cases h

theorem dropWhile_isBlank_isNotBrace (cs : List Char) :
    (cs.dropWhile Text.isBlank).dropWhile isNotBrace = cs.dropWhile isNotBrace := by
  conv_rhs => rw [← List.takeWhile_append_dropWhile (p := Text.isBlank) (l := cs)]
  exact (List.dropWhile_append_of_pos fun c hc => isNotBrace_of_isBlank (List.mem_takeWhile_imp hc)).symm

theorem takeWhile_dropWhile_isBlank (cs : List Char) :
    (cs.dropWhile Text.isBlank).takeWhile isNotBrace = (cs.takeWhile isNotBrace).dropWhile Text.isBlank := by
  induction cs with
  | nil => rfl
  | cons c rest ih =>
    by_cases hblank : Text.isBlank c = true
    · rw [List.dropWhile_cons_of_pos hblank, ih, List.takeWhile_cons_of_pos (isNotBrace_of_isBlank hblank),
        List.dropWhile_cons_of_pos hblank]
    · rw [List.dropWhile_cons_of_neg hblank, List.takeWhile_cons]
      split
      · rw [List.dropWhile_cons_of_neg hblank]
      · rfl

/-- With nothing but white space before the brace, it is the brace that white space is followed by. -/
theorem closed?_dropWhile_of_forall (h : ∀ c ∈ cs.takeWhile isNotBrace, Text.isBlank c = true) :
    closed? (cs.dropWhile Text.isBlank) = closed? (cs.dropWhile isNotBrace) := by
  induction cs with
  | nil => rfl
  | cons c rest ih =>
    by_cases hc : isNotBrace c = true
    · rw [List.takeWhile_cons_of_pos hc, List.forall_mem_cons] at h
      rw [List.dropWhile_cons_of_pos h.1, List.dropWhile_cons_of_pos hc, ih h.2]
    · rw [List.dropWhile_cons_of_neg (mt isNotBrace_of_isBlank hc), List.dropWhile_cons_of_neg hc]

theorem closed?_dropWhile_of_not (h : ¬ ∀ c ∈ cs.takeWhile isNotBrace, Text.isBlank c = true) :
    closed? (cs.dropWhile Text.isBlank) = none := by
  induction cs with
  | nil => exact absurd (List.forall_mem_nil _) h
  | cons c rest ih =>
    by_cases hc : isNotBrace c = true
    · rw [List.takeWhile_cons_of_pos hc, List.forall_mem_cons] at h
      by_cases hblank : Text.isBlank c = true
      · rw [List.dropWhile_cons_of_pos hblank, ih fun hrest => h ⟨hblank, hrest⟩]
      · rw [List.dropWhile_cons_of_neg hblank, closed?_of_isNotBrace hc]
    · rw [List.takeWhile_cons_of_neg hc] at h
      exact absurd (List.forall_mem_nil _) h

theorem first?_closing (cs : List Char) :
    first? [.blanks, .literal "\x7d\x7d"] cs = (closed? (cs.dropWhile Text.isBlank)).map fun after => ([], after) := by
  have hliteral : ∀ cs, first? [.literal "\x7d\x7d"] cs = (closed? cs).map fun after => ([], after) := by
    intro cs
    rw [first?_literal, closed?]
    exact Option.map_eq_bind.symm
  rw [Part.blanks, first?_greedy_of_not, hliteral]
  intro c rest hc
  rw [hliteral, closed?_of_isNotBrace (isNotBrace_of_isBlank hc)]
  rfl

/-- A lazy run of characters other than braces ends before the white space that the braces follow. -/
theorem findSome?_spans_closed? {β : Type} (g : List Char → List Char → β) (cs : List Char) :
    (spans isNotBrace cs).findSome? (fun s => (closed? (s.2.dropWhile Text.isBlank)).map (g s.1)) =
      (closed? (cs.dropWhile isNotBrace)).map (g (Text.dropLastWhile Text.isBlank (cs.takeWhile isNotBrace))) := by
  induction cs generalizing g with
  | nil => rfl
  | cons c rest ih =>
    by_cases hc : isNotBrace c = true
    · rw [spans, if_pos hc, List.findSome?_cons, List.findSome?_map, Function.comp_def, ih fun taken => g (c :: taken),
        List.dropWhile_cons_of_pos hc]
      -- Only where nothing but white space stands before the brace does the run of none go on.
      by_cases hall : ∀ d ∈ (c :: rest).takeWhile isNotBrace, Text.isBlank d = true
      · rw [closed?_dropWhile_of_forall hall, Text.dropLastWhile_eq_nil_iff.mpr hall, List.dropWhile_cons_of_pos hc]
        cases closed? (rest.dropWhile isNotBrace) <;> rfl
      · rw [closed?_dropWhile_of_not hall]
        rw [List.takeWhile_cons_of_pos hc] at hall ⊢
        rw [Text.dropLastWhile_cons_of_not hall]
        rfl
    · rw [spans, if_neg hc, List.findSome?_singleton, List.dropWhile_cons_of_neg (mt isNotBrace_of_isBlank hc),
        List.takeWhile_cons_of_neg hc, List.dropWhile_cons_of_neg hc, Text.dropLastWhile]

/-- In the first way the name is trimmed: there is as much white space around it as there can be. -/
theorem first?_name (cs : List Char) :
    first? (.blanks :: namePattern) cs =
      (closed? (cs.dropWhile isNotBrace)).map fun after =>
        ([String.ofList (Text.trimChars (cs.takeWhile isNotBrace))], after) := by
  have hname : ∀ cs, first? namePattern cs = (closed? (cs.dropWhile isNotBrace)).map fun after =>
      ([String.ofList (Text.dropLastWhile Text.isBlank (cs.takeWhile isNotBrace))], after) := by
    intro cs
    rw [namePattern, first?_cons, Part.ways]
    simp only [Bool.false_eq_true, if_false, if_true, List.findSome?_map, Function.comp_def, first?_closing,
      Option.map_map, Way.after, List.append_nil]
    exact findSome?_spans_closed? (fun taken after => ([String.ofList taken], after)) cs
  rw [Part.blanks, first?_greedy, hname, dropWhile_isBlank_isNotBrace, takeWhile_dropWhile_isBlank, Text.trimChars]
  intro taken after hcs htaken
  have hdrop : cs.dropWhile isNotBrace = after.dropWhile isNotBrace := by
    rw [hcs, List.dropWhile_append_of_pos fun c hc => isNotBrace_of_isBlank (htaken c hc)]
  rw [hname, hname, dropWhile_isBlank_isNotBrace, hdrop, Option.isSome_map, Option.isSome_map]
  exact id

/-! ### The word and the token -/

theorem keyword?_eq_some_iff {kind : TokenKind} :
    keyword? cs = some (kind, rest) ↔ cs = kind.word.toList ++ ':' :: rest := by
  constructor
  · intro h
    unfold keyword? at h
    split at h <;> cases h <;> rfl
  · rintro rfl
    cases kind <;> rfl

/-- A text does not begin with both words, so the order in which they are tried is of no account. -/
theorem isPrefixOf?_word_of_ne {kind other : TokenKind} (h : other ≠ kind) (rest : List Char) :
    other.word.toList.isPrefixOf? (kind.word.toList ++ rest) = none := by
  rcases kind with _ | _
  · rcases other with _ | _
    · exact absurd rfl h
    · rfl
  · rcases other with _ | _
    · rfl
    · exact absurd rfl h

theorem first?_word (parts : List Part) (cs : List Char) :
    first? (.choice [TokenKind.variable.word, TokenKind.block.word] :: .literal ":" :: parts) cs =
      (keyword? cs).bind fun k => (first? parts k.2).map (Way.after [k.1.word]) := by
  simp only [first?_choice, first?_literal]
  cases hk : keyword? cs with
  | some k =>
    obtain ⟨kind, body⟩ := k
    obtain rfl := keyword?_eq_some_iff.mp hk
    have hword : (kind.word.toList).isPrefixOf? (kind.word.toList ++ ':' :: body) = some (':' :: body) :=
      isPrefixOf?_eq_some_iff.mpr rfl
    have hcolon : (":".toList).isPrefixOf? (':' :: body) = some body := isPrefixOf?_eq_some_iff.mpr rfl
    have hother : ∀ other, other ≠ kind → other.word.toList.isPrefixOf? (kind.word.toList ++ ':' :: body) = none :=
      fun other hne => isPrefixOf?_word_of_ne hne _
    rcases kind with _ | _
    · have hblock := hother .block (by decide)
      simp only [List.findSome?_cons, List.findSome?_nil, hword, hcolon, hblock, Option.bind_some, Option.bind_none]
      cases first? parts body <;> rfl
    · have hvariable := hother .variable (by decide)
      simp only [List.findSome?_cons, List.findSome?_nil, hword, hcolon, hvariable, Option.bind_some, Option.bind_none]
      cases first? parts body <;> rfl
  | none =>
    rw [Option.bind_none, List.findSome?_eq_none_iff]
    intro word hword
    obtain ⟨kind, rfl⟩ : ∃ kind : TokenKind, word = kind.word := by
      rcases List.mem_pair.mp hword with rfl | rfl
      · exact ⟨.variable, rfl⟩
      · exact ⟨.block, rfl⟩
    refine Option.bind_eq_none_iff.mpr fun after hafter => Option.map_eq_none_iff.mpr ?_
    refine Option.bind_eq_none_iff.mpr fun body hbody => ?_
    obtain rfl := isPrefixOf?_eq_some_iff.mp hafter
    obtain rfl := isPrefixOf?_eq_some_iff.mp hbody
    have hkeyword : keyword? (kind.word.toList ++ ':' :: body) = some (kind, body) := keyword?_eq_some_iff.mpr rfl
    exact absurd (hkeyword.symm.trans hk) (Option.some_ne_none _)

/-- A token by its parts. -/
theorem token?_eq (cs : List Char) :
    token? cs =
      (("\x7b\x7b".toList).isPrefixOf? cs).bind fun rest =>
        (keyword? (rest.dropWhile Text.isBlank)).bind fun k =>
          (closed? (k.2.dropWhile isNotBrace)).map fun after =>
            (⟨k.1, String.ofList (Text.trimChars (k.2.takeWhile isNotBrace))⟩, after) := by
  unfold token?
  split
  · rename_i rest
    have hopen : ("\x7b\x7b".toList).isPrefixOf? ('\x7b' :: '\x7b' :: rest) = some rest :=
      isPrefixOf?_eq_some_iff.mpr rfl
    rw [hopen, Option.bind_some]
    cases keyword? (rest.dropWhile Text.isBlank) with
    | none => rfl
    | some k =>
      rw [Option.bind_some]
      dsimp only
      split
      · rename_i after hafter
        rw [closed?, isPrefixOf?_eq_some_iff.mpr hafter]
        rfl
      · rename_i hnot
        rw [closed?, isPrefixOf?_eq_none hnot]
        rfl
  · rename_i hnot
    have hopen : ("\x7b\x7b".toList).isPrefixOf? cs = none := isPrefixOf?_eq_none hnot
    rw [hopen]
    rfl

theorem first?_wordPattern (cs : List Char) :
    first? wordPattern cs =
      (keyword? cs).bind fun k => (closed? (k.2.dropWhile isNotBrace)).map fun after =>
        ([k.1.word, String.ofList (Text.trimChars (k.2.takeWhile isNotBrace))], after) := by
  rw [wordPattern, first?_word]
  simp only [first?_name, Option.map_map]
  rfl

/-- Of the ways in which the pattern matches the first one finds the token that the text begins with. -/
theorem first?_tokenPattern (cs : List Char) :
    first? tokenPattern cs = (token? cs).map fun t => ([t.1.kind.word, t.1.name], t.2) := by
  have hblank : ∀ c rest, Text.isBlank c = true → first? wordPattern (c :: rest) = none := by
    intro c rest hc
    have hword : keyword? (c :: rest) = none := by
      refine Option.eq_none_iff_forall_ne_some.mpr fun ⟨kind, body⟩ h => ?_
      have hword := keyword?_eq_some_iff.mp h
      cases kind <;> (obtain ⟨rfl, -⟩ := List.cons.inj hword; cases hc)
    rw [first?_wordPattern, hword]
    rfl
  have hrest : ∀ rest, first? (.blanks :: wordPattern) rest = first? wordPattern (rest.dropWhile Text.isBlank) :=
    fun rest => first?_greedy_of_not hblank
  rw [tokenPattern, first?_literal, token?_eq]
  simp only [hrest, first?_wordPattern, Option.map_bind, Option.map_map, Function.comp_def]

end

end Template

end Questionnaire
