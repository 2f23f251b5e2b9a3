import Questionnaire.Document

/-!
# Templates

Texts on a page may name answers and variables between double braces. A text falls into pieces, characters and
tokens, by itself alone; resolving writes each token's value in its place and copies the rest.
-/

namespace Questionnaire

namespace Template

inductive TokenKind where
  | variable | block
deriving DecidableEq, Repr

/-- A place where a value goes. -/
structure Token where
  kind : TokenKind
  name : String
deriving DecidableEq, Repr

inductive Piece where
  | char (c : Char)
  | token (t : Token)
deriving DecidableEq, Repr

/-- The word that a token begins with, and what follows it. -/
def keyword? : List Char → Option (TokenKind × List Char)
  | 'v' :: 'a' :: 'r' :: ':' :: rest => some (.variable, rest)
  | 'b' :: 'l' :: 'o' :: 'c' :: 'k' :: ':' :: rest => some (.block, rest)
  | _ => none

def isNotBrace (c : Char) : Bool := c != '\x7d'

/-- The token at the head of a text, and what follows it. -/
def token? : List Char → Option (Token × List Char)
  | '\x7b' :: '\x7b' :: rest =>
    match keyword? (rest.dropWhile Text.isBlank) with
    | some (kind, rest) =>
      match rest.dropWhile isNotBrace with
      | '\x7d' :: '\x7d' :: after => some (⟨kind, String.ofList (Text.trimChars (rest.takeWhile isNotBrace))⟩, after)
      | _ => none
    | none => none
  | _ => none

theorem length_dropWhile_le (p : Char → Bool) (cs : List Char) : (cs.dropWhile p).length ≤ cs.length :=
  (List.dropWhile_suffix p).length_le

theorem keyword?_length {cs rest : List Char} {kind : TokenKind} (h : keyword? cs = some (kind, rest)) :
    rest.length < cs.length := by
  unfold keyword? at h
  split at h <;> simp at h
  · obtain ⟨_, rfl⟩ := h; simp; omega
  · obtain ⟨_, rfl⟩ := h; simp; omega

theorem token?_length {cs rest : List Char} {t : Token} (h : token? cs = some (t, rest)) :
    rest.length < cs.length := by
  unfold token? at h
  split at h
  · rename_i inner
    split at h
    · rename_i kind body hk
      split at h
      · rename_i after hd
        simp only [Option.some.injEq, Prod.mk.injEq] at h
        obtain ⟨_, rfl⟩ := h
        have h1 := keyword?_length hk
        have h2 := length_dropWhile_le Text.isBlank inner
        have h3 := length_dropWhile_le isNotBrace body
        rw [hd] at h3
        simp only [List.length_cons] at h3 ⊢
        omega
      · simp at h
    · simp at h
  · simp at h

/-- The pieces of a text: tokens from the left, each as early as possible, and the characters between them. -/
def pieces (cs : List Char) : List Piece :=
  match cs with
  | [] => []
  | c :: rest =>
    match _found : token? (c :: rest) with
    | some (t, after) => .token t :: pieces after
    | none => .char c :: pieces rest
termination_by cs.length
decreasing_by
  · exact token?_length _found
  · simp

/-- An answer as text; the items of a list with commas and blanks between them. -/
def answerText : Json → String
  | .array items => Json.joined ", " items
  | v => v.asText

/-- The text of a token, empty where it names nothing that there is. -/
def Token.text (answers : Answers) (vars : Variables) (t : Token) : String :=
  match t.kind with
  | .variable => ((vars.get? t.name).map VariableValue.display).getD ""
  | .block => ((answers.get? t.name).map answerText).getD ""

def Piece.text (answers : Answers) (vars : Variables) : Piece → List Char
  | .char c => [c]
  | .token t => (t.text answers vars).toList

/-- Two opening braces in a row, without which there is no token. -/
def hasOpening : List Char → Bool
  | '\x7b' :: '\x7b' :: _ => true
  | _ :: rest => hasOpening rest
  | [] => false

/-- The pieces of a text, one after the other. -/
def fill (answers : Answers) (vars : Variables) (s : String) : String :=
  String.ofList ((pieces s.toList).flatMap (Piece.text answers vars))

/-- The text with every token resolved. One that cannot have tokens is not taken apart. -/
def resolveText (answers : Answers) (vars : Variables) (s : String) : String :=
  if hasOpening s.toList then fill answers vars s else s

mutual

/-- Every text in a value resolved, at any depth; names of members are not texts. -/
def resolveJson (answers : Answers) (vars : Variables) : Json → Json
  | .text s => .text (resolveText answers vars s)
  | .array items => .array (resolveItems answers vars items)
  | .object members => .object (resolveMembers answers vars members)
  | v => v

def resolveItems (answers : Answers) (vars : Variables) : List Json → List Json
  | [] => []
  | v :: rest => resolveJson answers vars v :: resolveItems answers vars rest

def resolveMembers (answers : Answers) (vars : Variables) : List (String × Json) → List (String × Json)
  | [] => []
  | (name, v) :: rest => (name, resolveJson answers vars v) :: resolveMembers answers vars rest

end

end Template

/-- The block with the texts of its properties resolved. -/
def Block.resolve (answers : Answers) (vars : Variables) (b : Block) : Block :=
  { b with properties := b.properties.mapValues (Template.resolveJson answers vars) }

end Questionnaire
