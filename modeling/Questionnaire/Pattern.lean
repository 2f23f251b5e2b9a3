import Questionnaire.Text.CaseFolding
import Questionnaire.Text.Category
import Questionnaire.Text.Property

/-!
# Patterns

A pattern describes texts. `Pattern.occursIn` says whether some part of a text fits: it carries the set of places
that a pattern can have reached through the pattern, so its effort does not depend on how often parts may repeat.
-/

namespace Questionnaire

/-- A condition on a place in a text. -/
inductive Anchor where
  | textStart | textEnd
  /-- `crlf` counts carriage returns as line ends too. -/
  | lineStart (crlf : Bool) | lineEnd (crlf : Bool)
  | wordBoundary (ascii : Bool) | noWordBoundary (ascii : Bool)
  | wordStart (ascii : Bool) | wordEnd (ascii : Bool)
  | wordStartHalf (ascii : Bool) | wordEndHalf (ascii : Bool)
deriving DecidableEq, Repr

inductive Pattern where
  | empty
  /-- One character of a set. -/
  | set (chars : Text.Ranges)
  | anchor (a : Anchor)
  | seq (first second : Pattern)
  | alt (left right : Pattern)
  /-- At least `least` and at most `most` times. -/
  | repetition (inner : Pattern) (least : Nat) (most : Option Nat)
deriving Inhabited

namespace Anchor

/-- The characters that words are made of. -/
def wordChars : Text.Ranges :=
  Text.Ranges.unionAll
    [Text.Property.ranges "Alphabetic", Text.Property.ranges "Join_Control",
     Text.Category.nonspacingMark.ranges, Text.Category.spacingMark.ranges, Text.Category.enclosingMark.ranges,
     Text.Category.decimalNumber.ranges, Text.Category.connectorPunctuation.ranges]

def asciiWordChars : Text.Ranges := ⟨[(0x30, 0x39), (0x41, 0x5A), (0x5F, 0x5F), (0x61, 0x7A)]⟩

def isWordChar (ascii : Bool) (c : Option Char) : Bool :=
  match c with
  | some c => (if ascii then asciiWordChars else wordChars).has c
  | none => false

/-- The condition holds between two neighbouring characters; none stands for an end of the text. -/
def holds (a : Anchor) (before after : Option Char) : Bool :=
  match a with
  | .textStart => before.isNone
  | .textEnd => after.isNone
  | .lineStart crlf =>
    before.isNone || before == some '\n' || (crlf && before == some '\r' && after != some '\n')
  | .lineEnd crlf =>
    after.isNone || (crlf && after == some '\r') || (after == some '\n' && !(crlf && before == some '\r'))
  | .wordBoundary ascii => isWordChar ascii before != isWordChar ascii after
  | .noWordBoundary ascii => isWordChar ascii before == isWordChar ascii after
  | .wordStart ascii => !isWordChar ascii before && isWordChar ascii after
  | .wordEnd ascii => isWordChar ascii before && !isWordChar ascii after
  | .wordStartHalf ascii => !isWordChar ascii before
  | .wordEndHalf ascii => !isWordChar ascii after

end Anchor

namespace Pattern

/-- Places in a text, the one before its first character first: true where a pattern has come. -/
abbrev Places := List Bool

def Places.union (a b : Places) : Places := List.zipWith (· || ·) a b

/-- Every place moves past the next character, if the set has it. -/
def Places.advance (chars : Text.Ranges) (text : List Char) (places : Places) : Places :=
  false :: List.zipWith (fun here c => here && chars.has c) places text

/-- The places between the characters of a text, each with its neighbours. -/
def neighbours (before : Option Char) : List Char → List (Option Char × Option Char)
  | [] => [(before, none)]
  | c :: rest => (before, some c) :: neighbours (some c) rest

def Places.restrict (a : Anchor) (text : List Char) (places : Places) : Places :=
  List.zipWith (fun here (before, after) => here && a.holds before after) places (neighbours none text)

/-- A step repeated a number of times; once nothing changes, nothing will. -/
def iterate (step : Places → Places) : Nat → Places → Places
  | 0, places => places
  | n + 1, places =>
    let next := step places
    if next == places then places else iterate step n next

/-- The places that up to `n` steps reach. -/
def reach (step : Places → Places) : Nat → Places → Places
  | 0, places => places
  | n + 1, places =>
    let next := places.union (step places)
    if next == places then places else reach step n next

/-- Where the pattern can end if it begins at one of the places. -/
def run (text : List Char) : Pattern → Places → Places
  | .empty, places => places
  | .set chars, places => places.advance chars text
  | .anchor a, places => places.restrict a text
  | .seq first second, places => run text second (run text first places)
  | .alt left right, places => (run text left places).union (run text right places)
  | .repetition inner least most, places =>
    let started := iterate (run text inner) least places
    match most with
    | none => reach (run text inner) (text.length + 1) started
    | some most => reach (run text inner) (most - least) started

/-- Some part of the text fits the pattern. -/
def occursIn (p : Pattern) (s : String) : Bool :=
  let text := s.toList
  (run text p (List.replicate (text.length + 1) true)).any id

end Pattern

end Questionnaire
