import Questionnaire.Text.Blank

/-!
# Instants

Points in time in UTC, written as calendar dates with a time of day. A text may give its time in any zone and with
any number of digits after the point; the written form is in UTC with none, three, six or nine of them.
-/

namespace Questionnaire

namespace Calendar

/-- The years of the calendar. -/
def firstYear : Int := -262143

def lastYear : Int := 262142

def isLeap (year : Int) : Bool := year % 4 == 0 && (year % 100 != 0 || year % 400 == 0)

def monthLength (year : Int) (month : Nat) : Nat :=
  if month = 2 then (if isLeap year then 29 else 28)
  else if month = 4 ∨ month = 6 ∨ month = 9 ∨ month = 11 then 30
  else 31

end Calendar

/-- A day of the calendar. -/
structure Day where
  year : Int
  month : Nat
  day : Nat
deriving DecidableEq, Repr

namespace Day

open Calendar

/-- The day of that date, if there is one. -/
def of? (year : Int) (month day : Nat) : Option Day :=
  if firstYear ≤ year ∧ year ≤ lastYear ∧ 1 ≤ month ∧ month ≤ 12 ∧ 1 ≤ day ∧ day ≤ monthLength year month then
    some ⟨year, month, day⟩
  else none

def next? (d : Day) : Option Day :=
  if d.day < monthLength d.year d.month then of? d.year d.month (d.day + 1)
  else if d.month < 12 then of? d.year (d.month + 1) 1
  else of? (d.year + 1) 1 1

def previous? (d : Day) : Option Day :=
  if 1 < d.day then of? d.year d.month (d.day - 1)
  else if 1 < d.month then of? d.year (d.month - 1) (monthLength d.year (d.month - 1))
  else of? (d.year - 1) 12 31

end Day

/-- A point in time in UTC. A leap second counts as the second before it, with a billion nanoseconds more. -/
structure Instant where
  day : Day
  /-- The minute of the day. -/
  minute : Nat
  second : Nat
  nano : Nat
deriving DecidableEq, Repr

namespace Instant

/-- The number written with at least so many digits. -/
def digits (width n : Nat) : String :=
  let s := toString n
  String.ofList (List.replicate (width - s.length) '0') ++ s

/-- Years of more than four digits and years before the first have a sign. -/
def yearText (year : Int) : String :=
  if 0 ≤ year ∧ year ≤ 9999 then digits 4 year.toNat
  else (if year < 0 then "-" else "+") ++ digits 4 year.natAbs

/-- The digits after the point, if any: as few groups of three as hold the fraction. -/
def fractionText (nano : Nat) : String :=
  if nano = 0 then ""
  else if nano % 1000000 = 0 then "." ++ digits 3 (nano / 1000000)
  else if nano % 1000 = 0 then "." ++ digits 6 (nano / 1000)
  else "." ++ digits 9 nano

def text (t : Instant) : String :=
  let leap := 1000000000 ≤ t.nano
  let second := if leap then t.second + 1 else t.second
  let nano := if leap then t.nano - 1000000000 else t.nano
  yearText t.day.year ++ "-" ++ digits 2 t.day.month ++ "-" ++ digits 2 t.day.day ++ "T"
    ++ digits 2 (t.minute / 60) ++ ":" ++ digits 2 (t.minute % 60) ++ ":" ++ digits 2 second
    ++ fractionText nano ++ "Z"

/-! ### Reading -/

def skipBlanks (cs : List Char) : List Char := cs.dropWhile Text.isBlank

def number (cs : List Char) : Nat := cs.foldl (fun n c => n * 10 + (c.toNat - '0'.toNat)) 0

/-- At least one digit and at most so many: their number and the rest. -/
def readDigits? (limit : Nat) (cs : List Char) : Option (Nat × List Char) :=
  match (cs.take limit).takeWhile Char.isDigit with
  | [] => none
  | ds => some (number ds, cs.drop ds.length)

/-- A part of the date or the time: blanks and at most two digits. -/
def readPart? (cs : List Char) : Option (Nat × List Char) := readDigits? 2 (skipBlanks cs)

/-- A year has four digits at most, or a sign and any number of them. -/
def readYear? (cs : List Char) : Option (Int × List Char) :=
  match skipBlanks cs with
  | '-' :: rest => (readDigits? rest.length rest).map fun (n, rest) => (-(n : Int), rest)
  | '+' :: rest => (readDigits? rest.length rest).map fun (n, rest) => ((n : Int), rest)
  | rest => (readDigits? 4 rest).map fun (n, rest) => ((n : Int), rest)

/-- The text after a character, with blanks before it. -/
def after? (c : Char) (cs : List Char) : Option (List Char) :=
  match skipBlanks cs with
  | d :: rest => if d = c then some rest else none
  | [] => none

/-- The nanoseconds after a point, if there is one. Digits beyond the ninth do not count. -/
def readFraction? : List Char → Option (Nat × List Char)
  | '.' :: rest => do
    let (n, after) ← readDigits? 9 rest
    let count := rest.length - after.length
    return (n * Nat.pow 10 (9 - count), after.dropWhile Char.isDigit)
  | cs => some (0, cs)

/-- The minutes that a zone is ahead of UTC. -/
def readZone? (cs : List Char) : Option (Int × List Char) :=
  match cs with
  | 'Z' :: rest | 'z' :: rest => some (0, rest)
  | sign :: rest =>
    if sign.toLower = 'u' then
      match rest with
      | t :: c :: rest => if t.toLower = 't' ∧ c.toLower = 'c' then some (0, rest) else none
      | _ => none
    else if sign = '+' ∨ sign = '-' ∨ sign = '\u2212' then
      match rest with
      | a :: b :: rest =>
        match rest.dropWhile fun c => c == ':' || Text.isBlank c with
        | c :: d :: rest =>
          if a.isDigit ∧ b.isDigit ∧ c.isDigit ∧ d.isDigit ∧ number [c, d] < 60 ∧ number [a, b] < 24 then
            let ahead : Int := number [a, b] * 60 + number [c, d]
            some (if sign = '+' then ahead else -ahead, rest)
          else none
        | _ => none
      | _ => none
    else none
  | [] => none

/-- The instant at which a clock that is so many minutes ahead of UTC shows a day and a minute. -/
def ofLocal? (day : Day) (minute second nano : Nat) (ahead : Int) : Option Instant :=
  let m : Int := minute - ahead
  if m < 0 then day.previous?.map fun d => ⟨d, (m + 1440).toNat, second, nano⟩
  else if m < 1440 then some ⟨day, m.toNat, second, nano⟩
  else day.next?.map fun d => ⟨d, (m - 1440).toNat, second, nano⟩

/-- The instant that a text names: date, a letter or a blank, time and zone, with blanks between the parts. -/
def ofText? (s : String) : Option Instant := do
  let (year, rest) ← readYear? s.toList
  let (month, rest) ← readPart? (← after? '-' rest)
  let (day, rest) ← readPart? (← after? '-' rest)
  let day ← Day.of? year month day
  let rest ←
    match rest with
    | 'T' :: rest | 't' :: rest | ' ' :: rest => some rest
    | _ => none
  let (hour, rest) ← readPart? rest
  let (minute, rest) ← readPart? (← after? ':' rest)
  let (second, rest) ← readPart? (← after? ':' rest)
  let (nano, rest) ← readFraction? rest
  let (ahead, rest) ← readZone? (skipBlanks rest)
  guard (hour < 24 ∧ minute < 60 ∧ second ≤ 60 ∧ (skipBlanks rest).isEmpty)
  if second = 60 then ofLocal? day (hour * 60 + minute) 59 (nano + 1000000000) ahead
  else ofLocal? day (hour * 60 + minute) second nano ahead

end Instant

end Questionnaire
