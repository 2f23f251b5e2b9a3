import Questionnaire.Number.Binary

/-!
# The fewest digits that identify a float

The reals that round to a float form an interval around it. `shortest` looks for a decimal in that interval on
coarser grids before finer ones and takes, on the first grid with a hit, the hit nearest to the float.
-/

namespace Questionnaire.Number

/-- The decimal `digits * 10 ^ exponent`. -/
structure Decimal where
  digits : Nat
  exponent : Int
deriving DecidableEq, Repr

/-- A positive quotient of naturals. -/
structure Ratio where
  num : Nat
  den : Nat

namespace Ratio

/-- The quotient `n * base ^ e`. -/
def power (n base : Nat) : Int → Ratio
  | .ofNat e => ⟨n * Nat.pow base e, 1⟩
  | .negSucc e => ⟨n, Nat.pow base (e + 1)⟩

def le (a b : Ratio) : Bool := a.num * b.den ≤ b.num * a.den

def lt (a b : Ratio) : Bool := a.num * b.den < b.num * a.den

/-- The quotient of two quotients, rounded down. -/
def floorDiv (a b : Ratio) : Nat := a.num * b.den / (a.den * b.num)

end Ratio

/-- The interval of reals that round to a float, with the float itself. -/
structure Neighbourhood where
  low : Ratio
  value : Ratio
  high : Ratio
  /-- The ends round to the float too, which they do when its mantissa is even. -/
  closed : Bool

/-- Below a power of two the gap is half as wide as above it. -/
def neighbourhood (x : Float) : Neighbourhood :=
  let ⟨m, q⟩ := magnitude x
  let narrow := m == Nat.pow 2 52 && 1 < exponentField x
  { low := .power (if narrow then 4 * m - 1 else 4 * m - 2) 2 (q - 2)
    value := .power m 2 q
    high := .power (4 * m + 2) 2 (q - 2)
    closed := m % 2 == 0 }

def Neighbourhood.contains (n : Neighbourhood) (r : Ratio) : Bool :=
  if n.closed then n.low.le r && r.le n.high else n.low.lt r && r.lt n.high

/-- The least `k` with `value < 10 ^ k`, searched upwards from an estimate that is never too high. -/
def decimalScale (value : Ratio) : Int :=
  let bits : Int := (value.num.log2 : Int) - value.den.log2 - 1
  let estimate := bits * 3 / 10 - 2
  (List.range 10).foldl (fun k _ => if value.lt (.power 1 10 k) then k else k + 1) estimate

/-- The decimal on the grid `10 ^ exponent` that lies in the interval, the nearer one of two. -/
def onGrid (n : Neighbourhood) (exponent : Int) : Option Decimal :=
  let below := n.value.floorDiv (.power 1 10 exponent)
  let hit (digits : Nat) : Bool := n.contains (.power digits 10 exponent)
  let middle := Ratio.power (2 * below + 1) 10 exponent
  let twice : Ratio := ⟨2 * n.value.num, n.value.den⟩
  match hit below, hit (below + 1) with
  | true, true =>
    some ⟨if twice.lt middle || (twice.le middle && below % 2 == 0) then below else below + 1, exponent⟩
  | true, false => some ⟨below, exponent⟩
  | false, true => some ⟨below + 1, exponent⟩
  | false, false => none

/-- Trailing zeros of the digits moved into the exponent. -/
def Decimal.strip (d : Decimal) : Decimal :=
  (List.range 20).foldl
    (fun d _ => if d.digits % 10 == 0 && d.digits != 0 then ⟨d.digits / 10, d.exponent + 1⟩ else d) d

/-- The shortest decimal for the magnitude of a finite float other than zero; seventeen digits are enough. -/
def shortest (x : Float) : Decimal :=
  let n := neighbourhood x
  let scale := decimalScale n.value
  let found := (List.range 17).findSome? fun (i : Nat) => onGrid n (scale - i - 1)
  (found.getD ⟨n.value.floorDiv (.power 1 10 (scale - 20)), scale - 20⟩).strip

end Questionnaire.Number
