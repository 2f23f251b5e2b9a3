import Mathlib.Data.List.Forall2
import Questionnaire.Proofs.Template.Pattern

/-!
# Tokens in a text

What a token is, where the tokens of a text are, and what a text becomes: from the left, each token as early as one can
be, and every character that is in none of them. Where they are is settled by the text before there are any values; a
value is written in a token's place and not looked at again.
-/

namespace Questionnaire

namespace Template

/-- Two braces, white space, a word, a colon, a body without closing braces and two braces. The body without the white
space at its ends is the name. -/
inductive IsToken : Token → List Char → Prop
  | mk {kind : TokenKind} {blanks body : List Char} {name : String} : (∀ c ∈ blanks, Text.isBlank c = true) →
      '\x7d' ∉ body → Text.IsTrim body name.toList →
      IsToken ⟨kind, name⟩
        ("\x7b\x7b".toList ++ (blanks ++ (kind.word.toList ++ ':' :: (body ++ "\x7d\x7d".toList))))

/-- The text begins with the token. -/
def TokenAt (cs : List Char) (t : Token) (after : List Char) : Prop := ∃ src, IsToken t src ∧ cs = src ++ after

/-- The pattern of a token matches, and what it has captured is the token. -/
def MatchAt (cs : List Char) (t : Token) (after : List Char) : Prop :=
  ∃ word, first? tokenPattern cs = some ([word, t.name], after) ∧ t.kind = if word = "var" then .variable else .block

/-- The pieces of a text from the left: a token wherever one is found, else a character. -/
inductive Scans (Found : List Char → Token → List Char → Prop) : List Char → List Piece → Prop
  | nil : Scans Found [] []
  | token {cs t after ps} : Found cs t after → Scans Found after ps → Scans Found cs (.token t :: ps)
  | char {c rest ps} : (∀ t after, ¬ Found (c :: rest) t after) → Scans Found rest ps →
      Scans Found (c :: rest) (.char c :: ps)

/-- The text that stands for a token: what its variable shows, or its answer, the items of a list with commas and
blanks between them; nothing where there is no such variable or answer. -/
inductive Token.Value (answers : Answers) (vars : Variables) : Token → String → Prop
  | shown {name v} : vars.get? name = some v → Token.Value answers vars ⟨.variable, name⟩ v.display
  | noVariable {name} : vars.get? name = none → Token.Value answers vars ⟨.variable, name⟩ ""
  | listed {name items} : answers.get? name = some (.array items) →
      Token.Value answers vars ⟨.block, name⟩ (", ".intercalate (items.map Json.asText))
  | answered {name v} : answers.get? name = some v → (∀ items, v ≠ .array items) →
      Token.Value answers vars ⟨.block, name⟩ v.asText
  | noAnswer {name} : answers.get? name = none → Token.Value answers vars ⟨.block, name⟩ ""

/-- What is written for a piece. -/
inductive Piece.Writes (answers : Answers) (vars : Variables) : Piece → List Char → Prop
  | char (c : Char) : Piece.Writes answers vars (.char c) [c]
  | token {t text} : Token.Value answers vars t text → Piece.Writes answers vars (.token t) text.toList

section
variable {answers : Answers} {vars : Variables} {cs rest after : List Char} {t : Token} {ps : List Piece}
  {text : String}

/-! ### A token -/

theorem mem_iff_isNotBrace {body : List Char} : '\x7d' ∉ body ↔ ∀ c ∈ body, isNotBrace c = true := by
  refine ⟨fun h c hc => bne_iff_ne.mpr fun heq => h (heq ▸ hc), fun h hmem => ?_⟩
  cases h _ hmem

theorem dropWhile_isBlank_word (kind : TokenKind) {blanks : List Char} (h : ∀ c ∈ blanks, Text.isBlank c = true)
    (rest : List Char) :
    (blanks ++ (kind.word.toList ++ rest)).dropWhile Text.isBlank = kind.word.toList ++ rest := by
  rw [List.dropWhile_append_of_pos h]
  cases kind <;> rfl

theorem token?_of_isToken {src : List Char} (h : IsToken t src) (after : List Char) :
    token? (src ++ after) = some (t, after) := by
  obtain @⟨kind, blanks, body, name, hblanks, hbody, hname⟩ := h
  rw [mem_iff_isNotBrace] at hbody
  have hdrop : (body ++ ("\x7d\x7d".toList ++ after)).dropWhile isNotBrace = "\x7d\x7d".toList ++ after :=
    List.dropWhile_append_of_pos hbody
  have htake : (body ++ ("\x7d\x7d".toList ++ after)).takeWhile isNotBrace = body :=
    (List.takeWhile_append_of_pos hbody).trans (List.append_nil body)
  rw [token?_eq]
  simp only [List.append_assoc, List.cons_append]
  rw [isPrefixOf?_eq_some_iff.mpr rfl, Option.bind_some, dropWhile_isBlank_word kind hblanks,
    keyword?_eq_some_iff.mpr rfl, Option.bind_some]
  dsimp only
  rw [hdrop, htake, closed?, isPrefixOf?_eq_some_iff.mpr rfl, Option.map_some, ← Text.isTrim_iff.mp hname,
    String.ofList_toList]

theorem exists_isToken_of_token? (h : token? cs = some (t, after)) : ∃ src, IsToken t src ∧ cs = src ++ after := by
  rw [token?_eq] at h
  obtain ⟨rest, hrest, h⟩ := Option.bind_eq_some_iff.mp h
  obtain ⟨⟨kind, inner⟩, hkind, h⟩ := Option.bind_eq_some_iff.mp h
  obtain ⟨after', hafter, h⟩ := Option.map_eq_some_iff.mp h
  cases h
  have htrim : Text.IsTrim (inner.takeWhile isNotBrace)
      (String.ofList (Text.trimChars (inner.takeWhile isNotBrace))).toList := by
    rw [String.toList_ofList]
    exact Text.isTrim_trimChars _
  have hblanks : ∀ c ∈ rest.takeWhile Text.isBlank, Text.isBlank c = true := fun c => List.mem_takeWhile_imp
  have hbody : ∀ c ∈ inner.takeWhile isNotBrace, isNotBrace c = true := fun c => List.mem_takeWhile_imp
  have hend : inner.takeWhile isNotBrace ++ ("\x7d\x7d".toList ++ after) = inner := by
    rw [← isPrefixOf?_eq_some_iff.mp hafter, List.takeWhile_append_dropWhile]
  refine ⟨_, .mk hblanks (mem_iff_isNotBrace.mpr hbody) htrim, ?_⟩
  simp only [List.append_assoc, List.cons_append, hend]
  rw [← keyword?_eq_some_iff.mp hkind, List.takeWhile_append_dropWhile]
  exact isPrefixOf?_eq_some_iff.mp hrest

theorem tokenAt_iff : TokenAt cs t after ↔ token? cs = some (t, after) := by
  refine ⟨?_, exists_isToken_of_token?⟩
  rintro ⟨src, hsrc, rfl⟩
  exact token?_of_isToken hsrc after

theorem matchAt_iff : MatchAt cs t after ↔ token? cs = some (t, after) := by
  rw [MatchAt, first?_tokenPattern]
  constructor
  · rintro ⟨word, hmatch, hkind⟩
    obtain ⟨⟨⟨kind, name⟩, rest⟩, hsome, heq⟩ := Option.map_eq_some_iff.mp hmatch
    obtain ⟨k, n⟩ := t
    cases heq
    have hsame : k = kind := by
      rw [show k = _ from hkind]
      cases kind <;> rfl
    rw [hsome, hsame]
  · intro h
    refine ⟨t.kind.word, by rw [h]; rfl, ?_⟩
    cases t.kind <;> rfl

/-! ### The tokens of a text -/

theorem pieces_of_token (h : token? cs = some (t, after)) : pieces cs = .token t :: pieces after := by
  cases cs with
  | nil => cases h
  | cons c rest =>
    rw [pieces]
    split
    · rename_i hfound
      cases hfound.symm.trans h
      rfl
    · rename_i hfound
      cases hfound.symm.trans h

theorem pieces_of_char {c : Char} (h : token? (c :: rest) = none) : pieces (c :: rest) = .char c :: pieces rest := by
  rw [pieces]
  split
  · rename_i hfound
    cases hfound.symm.trans h
  · rfl

theorem scans_iff {Found : List Char → Token → List Char → Prop}
    (hfound : ∀ cs t after, Found cs t after ↔ token? cs = some (t, after)) : Scans Found cs ps ↔ ps = pieces cs := by
  constructor
  · intro h
    induction h with
    | nil => rw [pieces]
    | token ht _ ih => rw [pieces_of_token ((hfound _ _ _).mp ht), ih]
    | char hnone _ ih =>
      rw [pieces_of_char, ih]
      exact Option.eq_none_iff_forall_ne_some.mpr fun found h => hnone _ _ ((hfound _ found.1 found.2).mpr h)
  · rintro rfl
    induction cs using pieces.induct with
    | case1 => rw [pieces]; exact .nil
    | case2 c rest t after h ih =>
      rw [pieces_of_token h]
      exact .token ((hfound _ _ _).mpr h) ih
    | case3 c rest h ih =>
      rw [pieces_of_char h]
      refine .char (fun t after ht => ?_) ih
      cases ((hfound _ _ _).mp ht).symm.trans h

/-- Only a text with two opening braces in a row is taken apart. -/
theorem hasOpening_iff : hasOpening cs = true ↔ "\x7b\x7b".toList <:+: cs := by
  induction cs using hasOpening.induct with
  | case1 rest => exact ⟨fun _ => ⟨[], rest, rfl⟩, fun _ => rfl⟩
  | case2 c rest hnot ih =>
    have hprefix : ¬ "\x7b\x7b".toList <+: c :: rest := by
      rintro ⟨after, hafter⟩
      obtain ⟨rfl, rfl⟩ := List.cons.inj hafter
      exact hnot after rfl rfl
    rw [hasOpening, ih, List.infix_cons_iff, or_iff_right hprefix]
    exact hnot
  | case3 => exact iff_of_false Bool.false_ne_true fun h => nomatch List.infix_nil.mp h

theorem pieces_of_not_hasOpening (h : ¬ hasOpening cs = true) : pieces cs = cs.map .char := by
  induction cs with
  | nil => rw [pieces]; rfl
  | cons c rest ih =>
    rw [hasOpening_iff, List.infix_cons_iff, not_or, ← hasOpening_iff] at h
    have hnone : token? (c :: rest) = none := by
      refine Option.eq_none_iff_forall_ne_some.mpr fun found hfound => h.1 ?_
      rw [token?_eq] at hfound
      obtain ⟨after, hopen, -⟩ := Option.bind_eq_some_iff.mp hfound
      exact ⟨after, (isPrefixOf?_eq_some_iff.mp hopen).symm⟩
    rw [pieces_of_char hnone, ih h.2, List.map_cons]

/-! ### What is written -/

theorem fill_of_pieces {s : String} (h : pieces s.toList = s.toList.map .char) : fill answers vars s = s := by
  have hchars : (s.toList.map Piece.char).flatMap (Piece.text answers vars) = s.toList := by
    rw [List.flatMap_map]
    exact List.flatMap_singleton' s.toList
  rw [fill, h, hchars, String.ofList_toList]

theorem fill_of_not_hasOpening {s : String} (h : ¬ hasOpening s.toList = true) : fill answers vars s = s :=
  fill_of_pieces (pieces_of_not_hasOpening h)

theorem resolveText_eq_fill (answers : Answers) (vars : Variables) (s : String) :
    resolveText answers vars s = fill answers vars s := by
  rw [resolveText]
  split
  · rfl
  · rename_i h
    exact (fill_of_not_hasOpening h).symm

theorem itemTexts_eq_map (items : List Json) : Json.itemTexts items = items.map Json.asText := by
  induction items with
  | nil => rw [Json.itemTexts]; rfl
  | cons v rest ih => rw [Json.itemTexts, ih, List.map_cons]

theorem answerText_of_not_array {v : Json} (h : ∀ items, v ≠ .array items) : answerText v = v.asText := by
  cases v with
  | array items => exact absurd rfl (h items)
  | _ => rfl

theorem Token.text_eq_of_value (h : t.Value answers vars text) : t.text answers vars = text := by
  rcases h with h | h | h | ⟨h, hnot⟩ | h
  all_goals simp only [Token.text, h, Option.map_some, Option.map_none, Option.getD_some, Option.getD_none]
  · rw [answerText, Json.joined, itemTexts_eq_map]
  · exact answerText_of_not_array hnot

theorem Token.exists_value (answers : Answers) (vars : Variables) (t : Token) : ∃ text, t.Value answers vars text := by
  obtain ⟨_ | _, name⟩ := t
  · cases h : vars.get? name with
    | none => exact ⟨_, .noVariable h⟩
    | some v => exact ⟨_, .shown h⟩
  · cases h : answers.get? name with
    | none => exact ⟨_, .noAnswer h⟩
    | some v =>
      by_cases hlist : ∃ items, v = .array items
      · obtain ⟨items, rfl⟩ := hlist
        exact ⟨_, .listed h⟩
      · exact ⟨_, .answered h fun items heq => hlist ⟨items, heq⟩⟩

/-- A token has one value. -/
theorem Token.value_iff : t.Value answers vars text ↔ t.text answers vars = text := by
  refine ⟨Token.text_eq_of_value, ?_⟩
  rintro rfl
  obtain ⟨text, h⟩ := Token.exists_value answers vars t
  rwa [Token.text_eq_of_value h]

theorem Piece.writes_iff {p : Piece} {written : List Char} :
    p.Writes answers vars written ↔ p.text answers vars = written := by
  constructor
  · rintro (c | hvalue)
    · rfl
    · exact congrArg String.toList (Token.value_iff.mp hvalue)
  · rintro rfl
    cases p with
    | char c => exact .char c
    | token t => exact .token (Token.value_iff.mpr rfl)

theorem forall₂_writes_iff {written : List (List Char)} :
    List.Forall₂ (Piece.Writes answers vars) ps written ↔ ps.map (Piece.text answers vars) = written := by
  have hwrites : Piece.Writes answers vars = fun p written => p.text answers vars = written := by
    funext p written
    exact propext Piece.writes_iff
  rw [← List.forall₂_eq_eq_eq, List.forall₂_map_left_iff, hwrites]

end

/-- **A text is resolved in one pass.** Before there are any values the text has its pieces, the tokens from the left,
each as early as one can be, and the characters between them; these are the places where the pattern matches. Whatever
the values then are, the text becomes what is written for the pieces, one after the other. -/
theorem resolveText_eq_iff (s : String) :
    ∃ ps, (∀ qs, Scans TokenAt s.toList qs ↔ qs = ps) ∧ (∀ qs, Scans MatchAt s.toList qs ↔ qs = ps) ∧
      ∀ answers vars, resolveText answers vars s = fill answers vars s ∧
        ∀ resolved, resolveText answers vars s = resolved ↔
          ∃ written, List.Forall₂ (Piece.Writes answers vars) ps written ∧ resolved.toList = written.flatten := by
  refine ⟨pieces s.toList, fun qs => scans_iff fun _ _ _ => tokenAt_iff, fun qs => scans_iff fun _ _ _ => matchAt_iff,
    fun answers vars => ⟨resolveText_eq_fill answers vars s, fun resolved => ?_⟩⟩
  rw [resolveText_eq_fill, fill, List.flatMap_def]
  constructor
  · rintro rfl
    exact ⟨_, forall₂_writes_iff.mpr rfl, String.toList_ofList⟩
  · rintro ⟨written, hwritten, hresolved⟩
    rw [forall₂_writes_iff.mp hwritten, ← hresolved, String.ofList_toList]

example :
    pieces "\x7b\x7b\x7bvar: \x7b\x7bblock:a \x7d\x7d".toList =
      [.char '\x7b', .token ⟨.variable, "\x7b\x7bblock:a"⟩] := by cbv

end Template

end Questionnaire
