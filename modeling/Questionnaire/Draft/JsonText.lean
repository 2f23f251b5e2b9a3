import Questionnaire.Draft
import Questionnaire.Number.Literal

/-!
# Drafts of Json texts

`Draft.ofJsonText` follows a Json text from left to right. It never fails: where the text goes wrong, the draft
holds `broken` and ends. Numbers beyond the range of floats, unpaired surrogates and parts nested too deeply are
well formed but have no value.
-/

namespace Questionnaire.Draft

/-- The nesting at which lists and objects stop having a value. -/
def maxNesting : Nat := 127

def isJsonBlank (c : Char) : Bool := c == ' ' || c == '\n' || c == '\t' || c == '\r'

def skipBlanks (cs : List Char) : List Char := cs.dropWhile isJsonBlank

/-! ### Numbers -/

/-- The largest number of 64 bits. -/
def maxWord : Nat := Nat.pow 2 64 - 1

/-- The leading digits of a literal that fit in 64 bits, and how many digits after them were passed over. -/
def takeWhole (digits : List Nat) : Nat × Nat :=
  digits.foldl
    (fun (n, skipped) d => if 0 < skipped ∨ maxWord < n * 10 + d then (n, skipped + 1) else (n * 10 + d, 0)) (0, 0)

/-- The digits after the point that still fit in 64 bits, and how many they are. -/
def takeFraction (n : Nat) : List Nat → Nat × Nat
  | [] => (n, 0)
  | d :: rest =>
    if maxWord < n * 10 + d then (n, 0)
    else
      let (m, used) := takeFraction (n * 10 + d) rest
      (m, used + 1)

/-- `x * 10 ^ exponent`, in one multiplication or in divisions by powers that floats hold; `none` beyond the
largest float. The first argument bounds the divisions: four of them leave nothing of any float. -/
def scaleByTen : Nat → Float → Int → Option Float
  | 0, x, _ => some x
  | rounds + 1, x, exponent =>
    if exponent.natAbs ≤ 308 then
      let power := Number.ofDecimal false 1 exponent.natAbs
      if exponent < 0 then some (x / power)
      else (some (x * power)).filter Float.isFinite
    else if x == 0 then some x
    else if 0 ≤ exponent then none
    else scaleByTen rounds (x / Number.ofDecimal false 1 308) (exponent + 308)

/-- The value of a literal with a fraction or an exponent, or with too many digits for a whole number. -/
def floatOf (negative : Bool) (n : Nat) (exponent : Int) : Draft :=
  match scaleByTen 5 (Number.ofInt n) exponent with
  | some x => .float (if negative then -x else x)
  | none => .unusable

/-- The value of a literal from its digits before and after the point and its exponent. -/
def numberOf (negative : Bool) (whole fraction : List Nat) (exponent : Option Int) : Draft :=
  let (n, skipped) := takeWhole whole
  if fraction.isEmpty && exponent.isNone && skipped == 0 then
    if !negative then .int n
    else if 0 < n ∧ n ≤ Nat.pow 2 63 then .int (-n)
    else .float (-(Number.ofInt n))
  else
    let (n, used) := takeFraction n fraction
    let limit : Int := Nat.pow 2 31 - 1
    match exponent.getD 0 with
    | e =>
      if limit < e then if n = 0 then .float (if negative then -0.0 else 0.0) else .unusable
      else if e < -limit then .float (if negative then -0.0 else 0.0)
      else floatOf negative n ((skipped : Int) - used + e)

def digitsOf (cs : List Char) : List Nat := (cs.takeWhile Char.isDigit).map Number.digitValue

/-- A number literal at the head of the text, and what follows it. -/
def number (cs : List Char) : Draft × Option (List Char) :=
  let negative := cs.head? == some '-'
  let cs := if negative then cs.drop 1 else cs
  let whole := digitsOf cs
  let rest := cs.dropWhile Char.isDigit
  if whole.isEmpty || (whole.head? == some 0 && 1 < whole.length) then (.broken, none)
  else
    let (fraction, rest, missing) :=
      match rest with
      | '.' :: rest => (digitsOf rest, rest.dropWhile Char.isDigit, (digitsOf rest).isEmpty)
      | _ => ([], rest, false)
    if missing then (.broken, none)
    else match rest with
      | c :: after =>
        if c = 'e' ∨ c = 'E' then
          let (below, after) := Number.splitSign after
          let digits := digitsOf after
          if digits.isEmpty then (.broken, none)
          else
            let e : Int := Number.ofDigits 10 digits
            (numberOf negative whole fraction (some (if below then -e else e)), some (after.dropWhile Char.isDigit))
        else (numberOf negative whole fraction none, some rest)
      | [] => (numberOf negative whole fraction none, some rest)

/-! ### Texts -/

def hexValue? (c : Char) : Option Nat :=
  if c.isDigit then some (c.toNat - '0'.toNat)
  else if 'a' ≤ c ∧ c ≤ 'f' then some (c.toNat - 'a'.toNat + 10)
  else if 'A' ≤ c ∧ c ≤ 'F' then some (c.toNat - 'A'.toNat + 10)
  else none

/-- The number of four hexadecimal digits at the head, and what follows them. -/
def hexUnit? : List Char → Option (Nat × List Char)
  | a :: b :: c :: d :: rest => do
    let a ← hexValue? a
    let b ← hexValue? b
    let c ← hexValue? c
    let d ← hexValue? d
    return (((a * 16 + b) * 16 + c) * 16 + d, rest)
  | _ => none

def isHighSurrogate (n : Nat) : Bool := 0xD800 ≤ n && n < 0xDC00

def isLowSurrogate (n : Nat) : Bool := 0xDC00 ≤ n && n < 0xE000

/-- The units of a quoted text: characters, or sixteen-bit units from escapes. `none` for a text that is never
closed or holds a bad escape. The first argument bounds the number of units. -/
def quotedUnits : Nat → List Char → List (Char ⊕ Nat) → Option (List (Char ⊕ Nat) × List Char)
  | 0, _, _ => none
  | _, [], _ => none
  | _ + 1, '"' :: rest, acc => some (acc.reverse, rest)
  | fuel + 1, '\\' :: c :: rest, acc =>
    if c = 'u' then (hexUnit? rest).bind fun (n, rest) => quotedUnits fuel rest (.inr n :: acc)
    else
      let plain (d : Char) := quotedUnits fuel rest (.inl d :: acc)
      if c = '"' ∨ c = '\\' ∨ c = '/' then plain c
      else if c = 'b' then plain '\x08'
      else if c = 'f' then plain '\x0c'
      else if c = 'n' then plain '\n'
      else if c = 'r' then plain '\r'
      else if c = 't' then plain '\t'
      else none
  | fuel + 1, c :: rest, acc => if c.toNat < 0x20 then none else quotedUnits fuel rest (.inl c :: acc)

/-- The characters that units stand for: two surrogates in a row are one character, and one alone is none. -/
def joinUnits : List (Char ⊕ Nat) → Option (List Char)
  | [] => some []
  | .inl c :: rest => (joinUnits rest).map (c :: ·)
  | .inr n :: rest =>
    if isHighSurrogate n then
      match rest with
      | .inr m :: rest =>
        if isLowSurrogate m then
          (joinUnits rest).map (Char.ofNat (0x10000 + (n - 0xD800) * 0x400 + (m - 0xDC00)) :: ·)
        else none
      | _ => none
    else if isLowSurrogate n then none
    else (joinUnits rest).map (Char.ofNat n :: ·)

/-- A quoted text after its opening quote, and what follows it. -/
def quotedText (cs : List Char) : Draft × Option (List Char) :=
  match quotedUnits (cs.length + 1) cs [] with
  | none => (.broken, none)
  | some (units, rest) =>
    match joinUnits units with
    | some s => (.text (String.ofList s), some rest)
    | none => (.unusable, some rest)

/-! ### Values -/

/-- A fixed word at the head of the text. -/
def fixedWord (word : String) (d : Draft) (cs : List Char) : Draft × Option (List Char) :=
  if word.toList.isPrefixOf cs then (d, some (cs.drop word.length)) else (.broken, none)

/-- A list or an object at some nesting. -/
def nested (depth : Nat) (d : Draft) (rest : Option (List Char)) : Draft × Option (List Char) :=
  if depth < maxNesting then (d, rest) else if rest.isSome then (.unusable, rest) else (.broken, none)

mutual

/-- A value at the head of the text, and what follows it if the text goes on. -/
def value (depth : Nat) : Nat → List Char → Draft × Option (List Char)
  | 0, _ => (.broken, none)
  | fuel + 1, cs =>
    match skipBlanks cs with
    | [] => (.broken, none)
    | '"' :: rest => quotedText rest
    | '[' :: rest =>
      let (items, rest) := listItems depth fuel true rest []
      nested depth (.list items rest.isSome) rest
    | '\x7b' :: rest =>
      let (members, rest) := tableMembers depth fuel true rest []
      nested depth (.table members rest.isSome) rest
    | c :: rest =>
      if c = 'n' then fixedWord "null" .null (c :: rest)
      else if c = 't' then fixedWord "true" (.bool true) (c :: rest)
      else if c = 'f' then fixedWord "false" (.bool false) (c :: rest)
      else number (c :: rest)

/-- The items of a list after its bracket or after an item. -/
def listItems (depth : Nat) : Nat → Bool → List Char → List Draft → List Draft × Option (List Char)
  | 0, _, _, acc => (acc.reverse, none)
  | fuel + 1, first, cs, acc =>
    let item (cs : List Char) :=
      let (d, rest) := value (depth + 1) fuel cs
      match rest with
      | some rest => listItems depth fuel false rest (d :: acc)
      | none => ((d :: acc).reverse, none)
    match skipBlanks cs with
    | ']' :: rest => (acc.reverse, some rest)
    | ',' :: rest =>
      match first, skipBlanks rest with
      | true, _ => item cs
      | _, ']' :: _ => (acc.reverse, none)
      | _, rest => item rest
    | cs => if first then item cs else (acc.reverse, none)

/-- The members of an object after its bracket or after a member. -/
def tableMembers (depth : Nat) :
    Nat → Bool → List Char → List (Draft × Draft) → List (Draft × Draft) × Option (List Char)
  | 0, _, _, acc => (acc.reverse, none)
  | fuel + 1, first, cs, acc =>
    let member (cs : List Char) :=
      match cs with
      | '"' :: rest =>
        match quotedText rest with
        | (name, some rest) =>
          match skipBlanks rest with
          | ':' :: rest =>
            let (d, rest) := value (depth + 1) fuel rest
            match rest with
            | some rest => tableMembers depth fuel false rest ((name, d) :: acc)
            | none => (((name, d) :: acc).reverse, none)
          | _ => (((name, .broken) :: acc).reverse, none)
        | (_, none) => (acc.reverse, none)
      | _ => (acc.reverse, none)
    match skipBlanks cs with
    | '\x7d' :: rest => (acc.reverse, some rest)
    | ',' :: rest => if first then (acc.reverse, none) else member (skipBlanks rest)
    | cs => if first then member cs else (acc.reverse, none)

end

/-- The draft of a Json text, and whether nothing but blanks follows it. -/
def ofJsonText (s : String) : Draft × Bool :=
  let cs := s.toList
  match value 0 (2 * cs.length + 2) cs with
  | (d, some rest) => (d, (skipBlanks rest).isEmpty)
  | (d, none) => (d, false)

end Questionnaire.Draft
