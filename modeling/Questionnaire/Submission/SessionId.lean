import Questionnaire.Web.Percent

/-!
# Session ids

An id of 128 bits. It is read from 32 hexadecimal digits, with or without the four hyphens, in braces or as a name in
the `uuid` namespace, and written in lower case with hyphens.
-/

namespace Questionnaire

structure SessionId where
  bits : BitVec 128
deriving DecidableEq, Repr

namespace SessionId

/-- The lengths of the groups between hyphens. -/
def groups : List Nat := [8, 4, 4, 4, 12]

/-- The hexadecimal digits, highest first. -/
def digits (id : SessionId) : List Char :=
  (List.range 32).map fun i => Nat.digitChar (id.bits.toNat / Nat.pow 16 (31 - i) % 16)

/-- Digits cut into groups. -/
def cut : List Nat → List Char → List (List Char)
  | [], _ => []
  | n :: rest, cs => cs.take n :: cut rest (cs.drop n)

def text (id : SessionId) : String :=
  String.intercalate "-" ((cut groups id.digits).map String.ofList)

/-- The id of exactly 32 digits. -/
def ofDigits? (cs : List Char) : Option SessionId := do
  let ds ← cs.mapM Web.hexDigit?
  guard (ds.length = 32)
  return ⟨BitVec.ofNat 128 (ds.foldl (fun n d => n * 16 + d) 0)⟩

/-- The id of digits with hyphens between the groups. -/
def ofHyphenated? (cs : List Char) : Option SessionId := do
  guard (cs.length = 36 ∧ [8, 13, 18, 23].all fun i => cs[i]? = some '-')
  ofDigits? (cs.filter (· ≠ '-'))

def ofText? (s : String) : Option SessionId :=
  let cs := s.toList
  if cs.length = 32 then ofDigits? cs
  else if cs.length = 38 ∧ cs.head? = some '\x7b' ∧ cs.getLast? = some '\x7d' then
    ofHyphenated? (cs.tail.take 36)
  else if cs.length = 45 ∧ cs.take 9 = "urn:uuid:".toList then ofHyphenated? (cs.drop 9)
  else ofHyphenated? cs

end SessionId

end Questionnaire
