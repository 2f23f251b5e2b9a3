/-!
# Binary floats as exact numbers

A finite float is a sign and a magnitude `mantissa * 2 ^ exponent`. `magnitude` takes a float apart and
`ofRatio` goes back: it rounds any quotient of naturals to the nearest float, a tie to the even mantissa.
All reading and printing of numbers goes through these two, in natural-number arithmetic.
-/

namespace Questionnaire.Number

/-- The exact number `mantissa * 2 ^ exponent`. -/
structure Dyadic where
  mantissa : Nat
  exponent : Int
deriving DecidableEq, Repr

/-- The sign bit is set: negative numbers, and also the negative zero. -/
def isNegative (x : Float) : Bool := Nat.pow 2 63 ≤ x.toBits.toNat

/-- The eleven exponent bits. -/
def exponentField (x : Float) : Nat := x.toBits.toNat / Nat.pow 2 52 % Nat.pow 2 11

/-- The magnitude of a finite float. -/
def magnitude (x : Float) : Dyadic :=
  let fraction := x.toBits.toNat % Nat.pow 2 52
  if exponentField x = 0 then ⟨fraction, -1074⟩ else ⟨Nat.pow 2 52 + fraction, exponentField x - 1075⟩

/-- The bits of positive infinity, the least that no finite magnitude has. -/
def infinityBits : Nat := 2047 * Nat.pow 2 52

def infinity : Float := Float.ofBits (UInt64.ofNat infinityBits)

/-- The float with the given sign and magnitude bits. -/
def ofMagnitudeBits (negative : Bool) (bits : Nat) : Float :=
  Float.ofBits (UInt64.ofNat (if negative then Nat.pow 2 63 + bits else bits))

/-- The quotient rounded to the nearest natural, a half to the even one. -/
def roundHalfEven (num den : Nat) : Nat :=
  let floor := num / den
  let twice := 2 * (num % den)
  if twice < den then floor
  else if den < twice then floor + 1
  else floor + floor % 2

/-- The quotient divided by `2 ^ exponent`, as numerator and denominator. -/
def scaleDown (num den : Nat) : Int → Nat × Nat
  | .ofNat e => (num, den * Nat.pow 2 e)
  | .negSucc e => (num * Nat.pow 2 (e + 1), den)

/-- The exponent at which the quotient has a mantissa of 53 bits, or the least one there is. -/
def exponentFor (num den : Nat) : Int :=
  let estimate : Int := (num.log2 : Int) - den.log2 - 52
  let (n, d) := scaleDown num den estimate
  max (if d * Nat.pow 2 52 ≤ n then estimate else estimate - 1) (-1074)

/-- The magnitude bits of the quotient rounded to a mantissa at that exponent. A mantissa that rounds up to the
next power of two carries into the exponent by itself. -/
def roundedBits (num den : Nat) (exponent : Int) : Nat :=
  let scaled := scaleDown num den exponent
  min ((exponent + 1074).toNat * Nat.pow 2 52 + roundHalfEven scaled.1 scaled.2) infinityBits

/-- The magnitude bits of the float nearest to the quotient. -/
def nearestBits (num den : Nat) : Nat := if num = 0 then 0 else roundedBits num den (exponentFor num den)

/-- The float nearest to `num / den`. -/
def ofRatio (num den : Nat) : Float := ofMagnitudeBits false (nearestBits num den)

/-- The float nearest to an integer. -/
def ofInt (n : Int) : Float := ofMagnitudeBits (n < 0) (nearestBits n.natAbs 1)

/-- The float nearest to `± digits * 10 ^ exponent`. Exponents that leave the range of floats whatever the
digits are settled without computing the power. -/
def ofDecimal (negative : Bool) (digits : Nat) (exponent : Int) : Float :=
  let size : Int := (Nat.toDigits 10 digits).length + exponent
  ofMagnitudeBits negative <|
    if digits = 0 ∨ size < -400 then 0
    else if 400 < size then infinityBits
    else match exponent with
      | .ofNat e => nearestBits (digits * Nat.pow 10 e) 1
      | .negSucc e => nearestBits digits (Nat.pow 10 (e + 1))

/-- The magnitude of a finite float without its fraction. -/
def truncate (x : Float) : Nat :=
  match magnitude x with
  | ⟨m, .ofNat e⟩ => m * Nat.pow 2 e
  | ⟨m, .negSucc e⟩ => m / Nat.pow 2 (e + 1)

/-- A finite float has no fraction. -/
def isWhole (x : Float) : Bool :=
  match magnitude x with
  | ⟨_, .ofNat _⟩ => true
  | ⟨m, .negSucc e⟩ => m % Nat.pow 2 (e + 1) == 0

end Questionnaire.Number
