import Questionnaire.Draft
import Questionnaire.Number.Literal
import Questionnaire.Yaml.Token

/-!
# What words stand for

A plain word may be a number, a truth value or nothing; quoted words are texts. A core tag says which of these a
word is to be, and a word that it does not fit has no value.
-/

namespace Questionnaire.Yaml

def nullWords : List String := ["null", "Null", "NULL", "~"]

def isNullWord (s : String) : Bool := nullWords.contains s

def boolWord? (s : String) : Option Bool :=
  if ["true", "True", "TRUE"].contains s then some true
  else if ["false", "False", "FALSE"].contains s then some false
  else none

/-- A number with zeros in front is no number. -/
def hasLeadingZero (cs : List Char) : Bool :=
  let digits := (Number.splitSign cs).2
  1 < digits.length && digits.head? == some '0' && digits.all Char.isDigit

/-- The number of at least one digit in a base. -/
def digits? (base : Nat) (cs : List Char) : Option Nat := do
  let ds ← cs.mapM Web.hexDigit?
  if ds.isEmpty || ds.any fun d => base ≤ d then none else some (Number.ofDigits base ds)

/-- A whole number without its sign: decimal, or in the base that its first two characters name. -/
def whole? : List Char → Option Nat
  | '0' :: 'x' :: rest => digits? 16 rest
  | '0' :: 'o' :: rest => digits? 8 rest
  | '0' :: 'b' :: rest => digits? 2 rest
  | cs => digits? 10 cs

/-- A whole number of at most 128 bits. -/
def int? (cs : List Char) : Option Int :=
  if hasLeadingZero cs then none
  else
    let (negative, rest) := Number.splitSign cs
    (whole? rest).bind fun n =>
      if negative then (if n ≤ Nat.pow 2 127 then some (-(n : Int)) else none)
      else if n < Nat.pow 2 128 then some n
      else none

/-- Whole numbers of more than 64 bits are no values. -/
def intValue? (n : Int) : Option Json :=
  if -(Nat.pow 2 63) ≤ n ∧ n < Nat.pow 2 64 then some (.int n) else none

/-- A finite number, or one of the words for those that are not. -/
def float? (s : String) : Option Float :=
  if [".inf", ".Inf", ".INF", "+.inf", "+.Inf", "+.INF"].contains s then some Number.infinity
  else if ["-.inf", "-.Inf", "-.INF"].contains s then some (-Number.infinity)
  else if [".nan", ".NaN", ".NAN"].contains s then some (Float.ofBits 0x7FF8000000000000)
  else
    match s.toList with
    | '+' :: '+' :: _ | '+' :: '-' :: _ => none
    | cs => (Number.ofChars? cs).filter Float.isFinite

/-- What a plain word without a tag stands for. -/
def plainMeaning (s : String) : Option Json :=
  if s.isEmpty || isNullWord s then some .null
  else
    match boolWord? s, int? s.toList with
    | some b, _ => some (.bool b)
    | none, some n => intValue? n
    | none, none =>
      if hasLeadingZero s.toList then some (.text s)
      else some (((float? s).map Json.float).getD (.text s))

/-- A word without a tag. -/
def untaggedWord (style : Style) (s : String) : Draft :=
  match style with
  | .quoted => .text s
  | .plain =>
    .word {
      letters := s
      meaning := plainMeaning s
      presence := if s.isEmpty || isNullWord s then .absent else .present
      isEmpty := s.isEmpty }

/-- What a word with a core tag stands for; a tag that is not known makes it a text. -/
def taggedMeaning (kind : String) (s : String) : Option Json :=
  match kind with
  | "bool" => (boolWord? s).map .bool
  | "int" => (int? s.toList).bind intValue?
  | "float" => (float? s).map .float
  | "null" => if isNullWord s then some .null else none
  | _ => some (.text s)

/-- The kind that a core tag names. -/
def coreKind? (tag : String) : Option String :=
  ["bool", "int", "float", "null"].find? fun kind => Tag.core ++ kind == tag

/-- The name that a tag of the document's own gives to a choice. -/
def choiceName? (tag : String) : Option String :=
  match tag.toList with
  | '!' :: rest => some (String.ofList rest)
  | _ => none

/-- A word with a tag. -/
def taggedWord (tag : String) (style : Style) (s : String) : Draft :=
  match choiceName? tag with
  | some name => .tagged name (untaggedWord style s)
  | none =>
    let kind := (coreKind? tag).getD ""
    .word {
      letters := s
      meaning := taggedMeaning kind s
      presence :=
        if style = .plain && kind == "null" then (if isNullWord s then .absent else .refused) else .present
      isEmpty := style = .plain && s.isEmpty }

end Questionnaire.Yaml
