/-!
# Labels in ASCII

A label of a host name with characters outside ASCII is written with letters, digits and hyphens: first its ASCII
characters, then where the others go, as numbers in base 36 of variable length.
-/

namespace Questionnaire.Web.Punycode

def base : Nat := 36

/-- The threshold of a digit, between 1 and 26. -/
def threshold (position bias : Nat) : Nat := max 1 (min 26 (position - bias))

/-- The large part of the number left over, halved until it is small. -/
def shrink : Nat → Nat → Nat → Nat
  | 0, delta, k => k + base * delta / (delta + 38)
  | fuel + 1, delta, k =>
    if 455 < delta then shrink fuel (delta / 35) (k + base) else k + base * delta / (delta + 38)

/-- The bias for the next number. -/
def adapt (delta points : Nat) (first : Bool) : Nat :=
  let delta := if first then delta / 700 else delta / 2
  shrink 64 (delta + delta / points) 0

def digitChar (d : Nat) : Char := if d < 26 then Char.ofNat ('a'.toNat + d) else Char.ofNat ('0'.toNat + d - 26)

def digitValue? (c : Char) : Option Nat :=
  if 'a' ≤ c ∧ c ≤ 'z' then some (c.toNat - 'a'.toNat)
  else if 'A' ≤ c ∧ c ≤ 'Z' then some (c.toNat - 'A'.toNat)
  else if c.isDigit then some (c.toNat - '0'.toNat + 26)
  else none

/-- A number as digits, the least significant first. -/
def number : Nat → Nat → Nat → Nat → List Char
  | 0, _, _, _ => []
  | fuel + 1, q, k, bias =>
    let t := threshold k bias
    if q < t then [digitChar q]
    else digitChar (t + (q - t) % (base - t)) :: number fuel ((q - t) / (base - t)) (k + base) bias

structure Encoder where
  delta : Nat
  bias : Nat
  handled : Nat
  first : Bool
  out : List Char

/-- One character of the label, when all characters below `point` have been written. -/
def Encoder.step (point : Nat) (e : Encoder) (c : Char) : Encoder :=
  if c.toNat < point then { e with delta := e.delta + 1 }
  else if c.toNat = point then
    { delta := 0
      bias := adapt e.delta (e.handled + 1) e.first
      handled := e.handled + 1
      first := false
      out := e.out ++ number 64 e.delta base e.bias }
  else e

/-- The characters outside ASCII, each point in turn. -/
def encodePoints (label : List Char) : Nat → Nat → List Nat → Encoder → Encoder
  | 0, _, _, e => e
  | _, _, [], e => e
  | fuel + 1, n, m :: points, e =>
    let e := { e with delta := e.delta + (m - n) * (e.handled + 1) }
    let e := label.foldl (Encoder.step m) e
    encodePoints label fuel (m + 1) points { e with delta := e.delta + 1 }

/-- The label in ASCII, without the mark in front. -/
def encode (label : List Char) : List Char :=
  let basic := label.filter fun c => c.toNat < 0x80
  let points := ((label.filter fun c => 0x80 ≤ c.toNat).map Char.toNat).mergeSort.eraseDups
  let start := if basic.isEmpty then [] else basic ++ ['-']
  (encodePoints label (points.length + 1) 0x80 points ⟨0, 72, basic.length, true, start⟩).out

/-- A number at the head of the digits, and what follows it. -/
def readNumber : List Char → Nat → Nat → Nat → Nat → Option (Nat × List Char)
  | [], _, _, _, _ => none
  | c :: rest, i, w, k, bias => do
    let d ← digitValue? c
    let i := i + d * w
    if Nat.pow 2 32 ≤ i then none
    let t := threshold k bias
    if d < t then return (i, rest) else readNumber rest i (w * (base - t)) (k + base) bias

/-- Characters put into the label one after the other. -/
def decodePoints : Nat → List Char → Nat → Nat → Nat → List Char → Option (List Char)
  | _, [], _, _, _, out => some out
  | 0, _, _, _, _, _ => none
  | fuel + 1, digits, n, i, bias, out => do
    let (j, rest) ← readNumber digits i 1 base bias
    let size := out.length + 1
    let n := n + j / size
    if !n.isValidChar then none
    let at_ := j % size
    decodePoints fuel rest n (at_ + 1) (adapt (j - i) size (i == 0 && out.all fun c => c.toNat < 0x80))
      (out.take at_ ++ [Char.ofNat n] ++ out.drop at_)

/-- The label that an ASCII form stands for. -/
def decode? (cs : List Char) : Option (List Char) :=
  let reversed := cs.reverse
  let (basic, digits) :=
    if cs.contains '-' then (((reversed.dropWhile (· != '-')).drop 1).reverse, (reversed.takeWhile (· != '-')).reverse)
    else ([], cs)
  if basic.all fun c => c.toNat < 0x80 then decodePoints (digits.length + 1) digits 0x80 0 72 basic else none

end Questionnaire.Web.Punycode
