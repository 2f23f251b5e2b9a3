/-!
# Sets of characters as ranges

A set of characters is an ordered list of disjoint, non-adjacent ranges of code points. The tables of the
character properties are lines of text in which every range is the distance from the end of the range before it
and, after a point, how many more characters it has, both in base 36.
-/

namespace Questionnaire.Text

/-- Ranges of code points, ends included. -/
structure Ranges where
  toList : List (Nat × Nat)
deriving Repr, DecidableEq, Inhabited

namespace Ranges

def none : Ranges := ⟨[]⟩

/-- The largest code point. -/
def maxPoint : Nat := 0x10FFFF

def all : Ranges := ⟨[(0, maxPoint)]⟩

def contains (r : Ranges) (n : Nat) : Bool := r.toList.any fun (low, high) => low ≤ n && n ≤ high

def has (r : Ranges) (c : Char) : Bool := r.contains c.toNat

/-- A range and the ordered ranges after it, with those that touch or overlap joined. -/
def joinFrom (low high : Nat) : List (Nat × Nat) → List (Nat × Nat)
  | [] => [(low, high)]
  | (low', high') :: rest =>
    if low' ≤ high + 1 then joinFrom low (max high high') rest else (low, high) :: joinFrom low' high' rest

def join : List (Nat × Nat) → List (Nat × Nat)
  | [] => []
  | (low, high) :: rest => joinFrom low high rest

/-- The set of all points in any of the ranges. -/
def ofList (rs : List (Nat × Nat)) : Ranges := ⟨join (rs.mergeSort fun a b => a.1 ≤ b.1)⟩

def union (a b : Ranges) : Ranges := ofList (a.toList ++ b.toList)

def unionAll (rs : List Ranges) : Ranges := ofList (rs.flatMap toList)

/-- The gaps between ordered ranges from a point on. -/
def gaps (start : Nat) : List (Nat × Nat) → List (Nat × Nat)
  | [] => if start ≤ maxPoint then [(start, maxPoint)] else []
  | (low, high) :: rest => if start < low then (start, low - 1) :: gaps (high + 1) rest else gaps (high + 1) rest

def complement (a : Ranges) : Ranges := ⟨gaps 0 a.toList⟩

def inter (a b : Ranges) : Ranges := (a.complement.union b.complement).complement

def diff (a b : Ranges) : Ranges := a.inter b.complement

def isEmpty (a : Ranges) : Bool := a.toList.isEmpty

/-- The value of a digit in base 36. -/
def digit (c : Char) : Nat := if c.isDigit then c.toNat - '0'.toNat else c.toNat - 'a'.toNat + 10

/-- The state of decoding: the point after the last range, the distance read so far, the length if its point
has been passed, and the ranges. -/
structure Decoder where
  next : Nat := 0
  gap : Nat := 0
  extra : Option Nat := Option.none
  ranges : List (Nat × Nat) := []

/-- The range that has been read is put down. -/
def Decoder.close (d : Decoder) : Decoder :=
  let low := d.next + d.gap
  let high := low + d.extra.getD 0
  { next := high + 1, ranges := (low, high) :: d.ranges }

def Decoder.step (d : Decoder) (c : Char) : Decoder :=
  if c = ' ' then d.close
  else if c = '.' then { d with extra := some 0 }
  else match d.extra with
    | some n => { d with extra := some (n * 36 + digit c) }
    | Option.none => { d with gap := d.gap * 36 + digit c }

/-- The set that the lines of a table describe. A line ends with a complete range. -/
def decode (lines : List String) : Ranges :=
  ⟨(lines.foldl (fun (d : Decoder) (line : String) => (line.toList.foldl Decoder.step d).close) {}).ranges.reverse⟩

end Ranges

end Questionnaire.Text
