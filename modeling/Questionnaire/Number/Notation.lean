import Questionnaire.Number.Shortest

/-!
# How numbers are written

A number is written with the fewest digits that identify it. `Notation` holds the choices that remain: when
an exponent is used, and whether a whole number shows a fraction. There are two: `plain`, for texts that people
read, and `json`, for documents.
-/

namespace Questionnaire.Number

structure Layout where
  /-- Decimal exponents written without an exponent part; `none` for all. -/
  positional : Option (Int × Int)
  /-- Whole numbers end in `.0`. -/
  showsFraction : Bool
  nan : String
  infinite : String

/-- Every digit in its place, and no fraction that is not there. -/
def plain : Layout := ⟨none, false, "NaN", "inf"⟩

/-- An exponent from `1e+16` up and below `1e-5`; what is not a number is `null`. -/
def json : Layout := ⟨some (-5, 15), true, "null", "null"⟩

def digitText (n : Nat) : String := String.ofList (Nat.toDigits 10 n)

def zeros (n : Nat) : String := String.ofList (List.replicate n '0')

/-- The digits with a point after the first one, and the exponent with its sign. -/
def Decimal.scientific (d : Decimal) : String :=
  let digits := Nat.toDigits 10 d.digits
  let exponent := d.exponent + (digits.length - 1 : Nat)
  let fraction := digits.drop 1
  String.ofList (digits.take 1) ++ (if fraction.isEmpty then "" else "." ++ String.ofList fraction)
    ++ (if exponent < 0 then "e-" else "e+") ++ digitText exponent.natAbs

/-- All digits in their places, around the point. -/
def Decimal.positional (d : Decimal) (showsFraction : Bool) : String :=
  let digits := Nat.toDigits 10 d.digits
  match d.exponent with
  | .ofNat e => String.ofList digits ++ zeros e ++ (if showsFraction then ".0" else "")
  | .negSucc e =>
    let places := e + 1
    let whole := digits.take (digits.length - places)
    let fraction := digits.drop (digits.length - places)
    (if whole.isEmpty then "0" else String.ofList whole) ++ "." ++ zeros (places - fraction.length)
      ++ String.ofList fraction

/-- The text of a number under a layout. -/
def render (layout : Layout) (x : Float) : String :=
  let sign := if isNegative x then "-" else ""
  if x.isNaN then layout.nan
  else if exponentField x = 2047 then
    if layout.infinite == layout.nan then layout.infinite else sign ++ layout.infinite
  else if (magnitude x).mantissa = 0 then sign ++ (if layout.showsFraction then "0.0" else "0")
  else
    let d := shortest x
    let exponent := d.exponent + ((Nat.toDigits 10 d.digits).length - 1 : Nat)
    sign ++ match layout.positional with
      | none => d.positional layout.showsFraction
      | some (least, greatest) =>
        if least ≤ exponent ∧ exponent ≤ greatest then d.positional layout.showsFraction
        else d.scientific

/-- The text of a number for people: a whole number below `10 ^ 15` is an integer, without a sign if it is zero. -/
def text (x : Float) : String :=
  if exponentField x < 2047 ∧ isWhole x ∧ truncate x < Nat.pow 10 15 then
    (if isNegative x ∧ truncate x ≠ 0 then "-" else "") ++ digitText (truncate x)
  else render plain x

end Questionnaire.Number
