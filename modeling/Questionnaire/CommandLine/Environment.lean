import Questionnaire.Entries
import Questionnaire.Text.Blank
import Questionnaire.Text.Category
import Questionnaire.Text.Property

/-!
# Environments

Named variables, and the file that supplies those which are missing. Each line of the file gives one variable;
its value may be quoted, and may refer to the variables before it.
-/

namespace Questionnaire

/-- Variables with texts for values. -/
abbrev Environment := Entries String

namespace Environment

/-- A letter or number of any script. -/
def isWordChar (c : Char) : Bool :=
  c.isAlphanum || (c.toNat ≥ 0x80 && ((Text.Property.ranges "Alphabetic").has c
    || [Text.Category.decimalNumber, .letterNumber, .otherNumber].any fun k => k.ranges.has c))

/-! ### Values -/

inductive Quotation where
  | none | single | double
deriving DecidableEq, Repr

/-- What the next character of a value belongs to. -/
inductive Place where
  | letters
  /-- After a backslash. -/
  | escape
  /-- In the name of a variable, the latest character first. -/
  | name (reversed : List Char)
  /-- In such a name between braces. -/
  | braces (reversed : List Char)
  /-- After the end of the value: blanks and a comment. -/
  | ended

/-- The value of the variable with the reversed name. -/
def referenced (env : Environment) (reversed : List Char) : List Char :=
  ((env.get? (String.ofList reversed.reverse)).getD "").toList

/-- The characters of a value, put in front of what has been read, the latest first. -/
def value? (env : Environment) : Quotation → Place → List Char → List Char → Option (List Char)
  | q, p, acc, [] =>
    match q, p with
    | .none, .braces _ => none
    | .none, .name reversed => some ((env.referenced reversed).reverse ++ acc)
    | .none, _ => some acc
    | _, _ => none
  | q, .ended, acc, c :: rest =>
    if c = ' ' ∨ c = '\t' then value? env q .ended acc rest
    else if c = '#' then some acc
    else none
  | q, .escape, acc, c :: rest =>
    if c = 'n' then value? env q .letters ('\n' :: acc) rest
    else if c ∈ ['\\', '\'', '"', '$', ' '] then value? env q .letters (c :: acc) rest
    else none
  | .single, .letters, acc, c :: rest =>
    if c = '\'' then value? env .none .letters acc rest else value? env .single .letters (c :: acc) rest
  | q, .name reversed, acc, c :: rest =>
    if isWordChar c then value? env q (.name (c :: reversed)) acc rest
    else if c = '\x7b' ∧ reversed = [] then value? env q (.braces []) acc rest
    else
      let acc := (env.referenced reversed).reverse ++ acc
      if c = '$' then value? env q (.name []) acc rest else value? env q .letters (c :: acc) rest
  | q, .braces reversed, acc, c :: rest =>
    if c = '\x7d' then value? env q .letters ((env.referenced reversed).reverse ++ acc) rest
    else value? env q (.braces (c :: reversed)) acc rest
  | q, .letters, acc, c :: rest =>
    if c = '$' then value? env q (.name []) acc rest
    else if c = '"' then value? env (if q = .double then .none else .double) .letters acc rest
    else if c = '\\' then value? env q .escape acc rest
    else if q = .double then value? env q .letters (c :: acc) rest
    else if c = '\'' then value? env .single .letters acc rest
    else if c = ' ' ∨ c = '\t' then value? env q .ended acc rest
    else value? env q .letters (c :: acc) rest

/-! ### Lines -/

def skipBlanks (cs : List Char) : List Char := cs.dropWhile Text.isBlank

/-- A name in front of a text, and the text behind it without blanks. -/
def name? (cs : List Char) : Option (String × List Char) :=
  match cs with
  | c :: _ =>
    let belongs (c : Char) : Bool := c.isAlphanum || c == '_' || c == '.'
    if c.isAlpha || c == '_' then
      some (String.ofList (cs.takeWhile belongs), skipBlanks (cs.dropWhile belongs))
    else none
  | [] => none

/-- The text after an equals sign. -/
def afterEquals? : List Char → Option (List Char)
  | '=' :: rest => some (skipBlanks rest)
  | _ => none

/-- A name, an equals sign, and what comes then. -/
def binding? (cs : List Char) : Option (String × List Char) := do
  let (name, rest) ← name? cs
  return (name, ← afterEquals? rest)

/-- A binding with the word `export` in front of it. -/
def exported? (cs : List Char) : Option (String × List Char) := do
  let (word, rest) ← name? cs
  if word = "export" then binding? rest else none

/-- Whether a line has nothing more to say. -/
def isSilent : List Char → Bool
  | [] => true
  | c :: _ => c == '#'

/-- The variable that a line gives; a line may also give none. A line that makes no sense has no answer. -/
def line? (env : Environment) (line : List Char) : Option (Option (String × String)) :=
  let cs := skipBlanks (Text.dropLastWhile Text.isBlank line)
  if isSilent cs then some none
  else do
    let (name, rest) ← (binding? cs).or (exported? cs)
    let v ← if isSilent rest then some [] else value? env .none .letters [] rest
    return some (name, String.ofList v.reverse)

/-- The environment with the variables of the lines that it does not have yet, up to the first line that makes no
sense. -/
def extendByLines (env : Environment) : List (List Char) → Environment
  | [] => env
  | line :: rest =>
    match line? env line with
    | none => env
    | some none => extendByLines env rest
    | some (some (name, v)) => extendByLines (if env.contains name then env else env.insert name v) rest

end Environment

end Questionnaire
