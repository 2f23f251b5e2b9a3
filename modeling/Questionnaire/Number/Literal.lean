import Questionnaire.Number.Binary
import Questionnaire.Text.Blank

/-!
# Reading numbers from text

`ofChars?` reads a number literal: a sign, digits with at most one point among or beside them, and an exponent;
or the words for infinity and for what is not a number. `ofText?` is the reading of answers: white space around
the literal does not count, and only finite numbers do.
-/

namespace Questionnaire.Number

/-- The natural number that the digits write in a base. -/
def ofDigits (base : Nat) (digits : List Nat) : Nat := digits.foldl (fun n d => n * base + d) 0

def digitValue (c : Char) : Nat := c.toNat - '0'.toNat

def decimalValue (cs : List Char) : Nat := ofDigits 10 (cs.map digitValue)

/-- The sign in front of a literal, and the rest. -/
def splitSign : List Char → Bool × List Char
  | '-' :: rest => (true, rest)
  | '+' :: rest => (false, rest)
  | cs => (false, cs)

/-- The exponent part: nothing, or a letter, a sign and at least one digit. -/
def exponentOf : List Char → Option Int
  | [] => some 0
  | c :: rest =>
    let (negative, digits) := splitSign rest
    if (c == 'e' || c == 'E') && !digits.isEmpty && digits.all Char.isDigit then
      some (if negative then -(decimalValue digits : Int) else decimalValue digits)
    else none

/-- The magnitude of an unsigned literal with its sign put back. -/
def ofUnsigned? (negative : Bool) (cs : List Char) : Option Float :=
  let word := cs.map Char.toLower
  if word = "inf".toList ∨ word = "infinity".toList then some (ofMagnitudeBits negative infinityBits)
  else if word = "nan".toList then some (Float.ofBits 0x7FF8000000000000)
  else
    let whole := cs.takeWhile Char.isDigit
    let (fraction, rest) :=
      match cs.dropWhile Char.isDigit with
      | '.' :: rest => (rest.takeWhile Char.isDigit, rest.dropWhile Char.isDigit)
      | rest => ([], rest)
    if whole.isEmpty && fraction.isEmpty then none
    else (exponentOf rest).map fun e => ofDecimal negative (decimalValue (whole ++ fraction)) (e - fraction.length)

/-- The number that a literal writes, however large. -/
def ofChars? (cs : List Char) : Option Float :=
  let (negative, rest) := splitSign cs
  ofUnsigned? negative rest

/-- The finite number that a text writes, apart from white space around it. -/
def ofText? (s : String) : Option Float :=
  (ofChars? (Text.trimChars s.toList)).filter Float.isFinite

end Questionnaire.Number
