import Questionnaire.Pattern.CharacterClass
import Questionnaire.Text.Blank

/-!
# How patterns are written

`Pattern.ofText?` reads a pattern: alternatives of sequences of characters, sets, anchors and groups, with counts
behind them. There are no references back and no looking around. A pattern that would unfold to more than a fixed
size is refused, like one nested too deeply.
-/

namespace Questionnaire.Pattern

open Text

/-- What the letters in a flag group switch. -/
structure Flags where
  ignoreCase : Bool := false
  multiLine : Bool := false
  dotAll : Bool := false
  unicode : Bool := true
  verbose : Bool := false
  crlf : Bool := false

/-- A pattern as far as it has been read. -/
structure Cursor where
  rest : List Char
  flags : Flags := {}
  /-- The names of groups so far. -/
  names : List String := []

abbrev Parser := StateT Cursor Option

namespace Parser

/-- Blanks and comments between the parts of a verbose pattern. The first argument bounds their number. -/
def skipVerbose : Nat → List Char → List Char
  | 0, cs => cs
  | _, [] => []
  | fuel + 1, c :: rest =>
    if isBlank c then skipVerbose fuel rest
    else if c = '#' then skipVerbose fuel (rest.dropWhile (· != '\n'))
    else c :: rest

def skip : Parser Unit :=
  modify fun s => if s.flags.verbose then { s with rest := skipVerbose (s.rest.length + 1) s.rest } else s

def peek? : Parser (Option Char) := return (← get).rest.head?

/-- The next character but one, blanks apart. -/
def peekSecond? : Parser (Option Char) := do
  let s ← get
  let rest := s.rest.drop 1
  return (if s.flags.verbose then skipVerbose (rest.length + 1) rest else rest).head?

def next : Parser Char := do
  match (← get).rest with
  | c :: rest =>
    modify ({ · with rest := rest })
    return c
  | [] => failure

/-- The given characters, if they are next. -/
def take? (word : String) : Parser Bool := do
  let rest := (← get).rest
  if word.toList.isPrefixOf rest then
    modify ({ · with rest := rest.drop word.length })
    return true
  else return false

/-- Everything since the given place is read again. -/
def goBack (start : Cursor) : Parser Unit := modify fun _ => start

def flags : Parser Flags := return (← get).flags

def takeWhile (p : Char → Bool) : Parser (List Char) := do
  let rest := (← get).rest
  modify ({ · with rest := rest.dropWhile p })
  return rest.takeWhile p

end Parser

open Questionnaire.Pattern.Parser

/-! ### Sets and characters -/

/-- A set under the flags: without regard to case if they say so. -/
def fold (f : Flags) (r : Ranges) : Ranges :=
  if !f.ignoreCase then r
  else if f.unicode then CaseFolding.close r
  else
    let letters := r.toList.flatMap fun (low, high) =>
      let shift (a b : Nat) (up : Bool) :=
        let l := max low a
        let h := min high b
        if l ≤ h then [if up then (l + 32, h + 32) else (l - 32, h - 32)] else []
      shift 0x41 0x5A true ++ shift 0x61 0x7A false
    r.union (Ranges.ofList letters)

/-- A set without its characters, or the set itself. Outside Unicode a pattern must not leave ASCII. -/
def negate (f : Flags) (negated : Bool) (r : Ranges) : Parser Ranges :=
  if !negated then return r
  else if f.unicode then return r.complement
  else failure

/-- What an escape or a single character stands for. -/
inductive Primitive where
  | literal (n : Nat)
  | set (r : Ranges)
  | anchor (a : Anchor)

def single (n : Nat) : Ranges := ⟨[(n, n)]⟩

def hexValue? (c : Char) : Option Nat :=
  if c.isDigit then some (c.toNat - '0'.toNat)
  else if 'a' ≤ c ∧ c ≤ 'f' then some (c.toNat - 'a'.toNat + 10)
  else if 'A' ≤ c ∧ c ≤ 'F' then some (c.toNat - 'A'.toNat + 10)
  else none

/-- The code point that hexadecimal digits write. -/
def codePoint (digits : List Char) : Parser Nat := do
  match digits.mapM hexValue? with
  | some (d :: ds) =>
    let n := (d :: ds).foldl (fun n d => n * 16 + d) 0
    if n.isValidChar then return n else failure
  | _ => failure

/-- A hexadecimal escape after its letter: a fixed number of digits, or any number in braces. Two digits outside
Unicode write a byte, and a byte beyond ASCII is no character. -/
def hexEscape (count : Nat) : Parser Primitive := do
  skip
  let braced ← take? "\x7b"
  let digits ←
    if braced then
      let digits ← takeWhile (· != '\x7d')
      let _ ← next
      let verbose := (← flags).verbose
      pure (if verbose then digits.filter fun c => !isBlank c else digits)
    else
      (List.range count).mapM fun _ => do
        let c ← next
        if (← flags).verbose then skip
        return c
  let n ← codePoint digits
  if !(← flags).unicode && count = 2 && !braced && 0x7F < n then failure
  return .literal n

/-- The parts of a text around the first separator in it. -/
def splitAround? (separator : List Char) : List Char → Option (List Char × List Char)
  | [] => none
  | c :: rest =>
    if separator.isPrefixOf (c :: rest) then some ([], (c :: rest).drop separator.length)
    else (splitAround? separator rest).map fun (a, b) => (c :: a, b)

/-- A named set after its letter. -/
def namedSet (negated : Bool) : Parser Primitive := do
  let f ← flags
  if !f.unicode then failure
  skip
  let c ← next
  let (chars, negated) ←
    if c = '\x7b' then
      let inside ← takeWhile (· != '\x7d')
      let _ ← next
      let name := inside.filter fun c => !(f.verbose && isBlank c)
      match splitAround? "!=".toList name with
      | some (p, v) => pure (classValued? (String.ofList p) (String.ofList v), !negated)
      | none =>
        match splitAround? ":".toList name <|> splitAround? "=".toList name with
        | some (p, v) => pure (classValued? (String.ofList p) (String.ofList v), negated)
        | none => pure (classNamed? (String.ofList name), negated)
    else if c = '\\' then failure
    else pure (classNamed? c.toString, negated)
  match chars with
  | some r => return .set (← negate f negated (fold f r))
  | none => failure

/-- The characters that have a meaning in patterns. -/
def isMeta (c : Char) : Bool := "\\.+*?()|[]\x7b\x7d^$#&-~".toList.contains c

/-- Characters other than letters and digits may be escaped without need. -/
def isEscapable (c : Char) : Bool :=
  isMeta c || (c.toNat < 0x80 && !c.isAlphanum && c != '<' && c != '>')

/-- The kind of word boundary in braces after `\b`. What cannot be one is left to the counts. -/
def specialBoundary (ascii : Bool) : Parser Anchor := do
  let start ← get
  if start.rest.head? != some '\x7b' then return .wordBoundary ascii
  let _ ← next
  skip
  let isNamePart (c : Char) := c.isAlpha || c == '-'
  match ← peek? with
  | none => failure
  | some c =>
    if !isNamePart c then
      goBack start
      return .wordBoundary ascii
    let verbose := (← flags).verbose
    let name ← takeWhile fun c => isNamePart c || (verbose && isBlank c)
    if !(← take? "\x7d") then failure
    match String.ofList (name.filter isNamePart) with
    | "start" => return .wordStart ascii
    | "end" => return .wordEnd ascii
    | "start-half" => return .wordStartHalf ascii
    | "end-half" => return .wordEndHalf ascii
    | _ => failure

/-- What follows a backslash. -/
def escape : Parser Primitive := do
  let f ← flags
  let ascii := !f.unicode
  let c ← next
  let short (r : Ranges) (negated : Bool) : Parser Primitive := return .set (← negate f negated r)
  match c with
  | 'x' => hexEscape 2
  | 'u' => hexEscape 4
  | 'U' => hexEscape 8
  | 'p' => namedSet false
  | 'P' => namedSet true
  | 'd' => short (digits f.unicode) false
  | 'D' => short (digits f.unicode) true
  | 's' => short (blanks f.unicode) false
  | 'S' => short (blanks f.unicode) true
  | 'w' => short (words f.unicode) false
  | 'W' => short (words f.unicode) true
  | 'a' => return .literal 0x07
  | 'f' => return .literal 0x0C
  | 't' => return .literal 0x09
  | 'n' => return .literal 0x0A
  | 'r' => return .literal 0x0D
  | 'v' => return .literal 0x0B
  | 'A' => return .anchor .textStart
  | 'z' => return .anchor .textEnd
  | 'b' => return .anchor (← specialBoundary ascii)
  | 'B' => return .anchor (.noWordBoundary ascii)
  | '<' => return .anchor (.wordStart ascii)
  | '>' => return .anchor (.wordEnd ascii)
  | c => if isEscapable c then return .literal c.toNat else failure

/-! ### Bracketed sets -/

/-- How two sets in a bracket are combined. -/
inductive SetOperator where
  | inter | diff | symmetricDiff

def SetOperator.apply (op : SetOperator) (a b : Ranges) : Ranges :=
  match op with
  | .inter => a.inter b
  | .diff => a.diff b
  | .symmetricDiff => (a.union b).diff (a.inter b)

/-- One character or escape inside a bracket. Outside Unicode the characters of a bracket are ASCII. -/
def bracketPrimitive : Parser Primitive := do
  let c ← next
  let p ← if c = '\\' then escape else pure (.literal c.toNat)
  match p with
  | .literal n => if !(← flags).unicode && 0x7F < n then failure else return p
  | _ => return p

/-- An item of a bracket: a character, a range or an escape for a set. -/
def bracketItem : Parser Ranges := do
  let f ← flags
  let low ← bracketPrimitive
  skip
  let here ← peek?
  if here.isNone then failure
  let second ← peekSecond?
  if here != some '-' || second == some ']' || second == some '-' then
    match low with
    | .literal n => return fold f (single n)
    | .set r => return r
    | .anchor _ => failure
  else
    let _ ← next
    skip
    match low, ← bracketPrimitive with
    | .literal a, .literal b => if a ≤ b then return fold f ⟨[(a, b)]⟩ else failure
    | _, _ => failure

/-- A class between colons, if one is next. -/
def colonClass? : Parser (Option Ranges) := do
  let start ← get
  let f ← flags
  if !(← take? "[:") then return none
  let negated ← take? "^"
  let name ← takeWhile (· != ':')
  let closed ← take? ":]"
  match (if closed then bracketClass? (String.ofList name) else none) with
  | some r => return some (← negate f negated (fold f r))
  | none =>
    goBack start
    return none

/-- What is read of a bracket: the sets before the last operator with the operator, and the set since. -/
structure BracketState where
  pending : Option (Ranges × SetOperator) := none
  current : Ranges := Ranges.none

def BracketState.result (b : BracketState) : Ranges :=
  match b.pending with
  | some (r, op) => op.apply r b.current
  | none => b.current

def BracketState.add (b : BracketState) (r : Ranges) : BracketState := { b with current := b.current.union r }

def BracketState.operator (b : BracketState) (op : SetOperator) : BracketState :=
  { pending := some (b.result, op), current := Ranges.none }

/-- Hyphens at the beginning of a bracket, and a closing bracket there, stand for themselves. -/
def bracketStart (n : Nat) : Parser (Bool × BracketState) := do
  skip
  let negated ← take? "^"
  skip
  let rec hyphens : Nat → BracketState → Parser BracketState
    | 0, b => pure b
    | n + 1, b => do
      if ← take? "-" then
        skip
        hyphens n (b.add (single '-'.toNat))
      else return b
  let b ← hyphens n {}
  if b.current.isEmpty && (← take? "]") then
    skip
    return (negated, b.add (single ']'.toNat))
  else return (negated, b)

mutual

/-- A bracket after its opening. The first argument bounds the number of items. -/
def bracket : Nat → Parser Ranges
  | 0 => failure
  | fuel + 1 => do
    let (negated, b) ← bracketStart (fuel + 1)
    let r ← bracketItems fuel b
    let f ← flags
    negate f negated (fold f r)

def bracketItems : Nat → BracketState → Parser Ranges
  | 0, _ => failure
  | fuel + 1, b => do
    skip
    match ← peek? with
    | none => failure
    | some '[' =>
      match ← colonClass? with
      | some r => bracketItems fuel (b.add r)
      | none =>
        let _ ← next
        let r ← bracket fuel
        bracketItems fuel (b.add r)
    | some ']' =>
      let _ ← next
      return b.result
    | some _ =>
      if ← take? "&&" then bracketItems fuel (b.operator .inter)
      else if ← take? "--" then bracketItems fuel (b.operator .diff)
      else if ← take? "~~" then bracketItems fuel (b.operator .symmetricDiff)
      else
        let r ← bracketItem
        bracketItems fuel (b.add r)

end

/-! ### Counts and groups -/

/-- A part of a pattern with the depth of its nesting. -/
structure Part where
  pattern : Pattern
  depth : Nat := 0

/-- The deepest nesting there may be. -/
def maxDepth : Nat := 250

/-- The parts of a sequence; a flag group is none. -/
abbrev Parts := List (Option Part)

def Parts.join (parts : Parts) : Part :=
  match parts.filterMap id with
  | [] => ⟨.empty, 0⟩
  | [p] => if parts.length = 1 then p else ⟨p.pattern, p.depth + 1⟩
  | p :: rest =>
    ⟨rest.foldl (fun acc q => .seq acc q.pattern) p.pattern, (rest.foldl (fun d q => max d q.depth) p.depth) + 1⟩

def joinAlternatives : List Part → Part
  | [] => ⟨.empty, 0⟩
  | [p] => p
  | p :: rest =>
    ⟨rest.foldl (fun acc q => .alt acc q.pattern) p.pattern, (rest.foldl (fun d q => max d q.depth) p.depth) + 1⟩

/-- The last part of a sequence repeated. There has to be one. -/
def repeatLast (least : Nat) (most : Option Nat) (parts : Parts) : Parser Parts :=
  match parts.getLast? with
  | some (some p) => return parts.dropLast ++ [some ⟨.repetition p.pattern least most, p.depth + 1⟩]
  | _ => failure

/-- A number of 32 bits in a count, with blanks around it. -/
def countNumber : Parser (Option Nat) := do
  let _ ← takeWhile isBlank
  let digits ← takeWhile Char.isDigit
  let _ ← takeWhile isBlank
  if digits.isEmpty then return none
  let n := digits.foldl (fun n c => n * 10 + (c.toNat - '0'.toNat)) 0
  if n < Nat.pow 2 32 then return some n else failure

/-- A count after its opening brace. -/
def count : Parser (Nat × Option Nat) := do
  skip
  let least ← countNumber
  let range ←
    if ← take? "," then
      skip
      if (← peek?) == some '\x7d' then
        match least with
        | some n => pure (n, none)
        | none => failure
      else
        match least, ← countNumber with
        | some n, some m => if n ≤ m then pure (n, some m) else failure
        | _, _ => failure
    else
      match least with
      | some n => pure (n, some n)
      | none => failure
  if ← take? "\x7d" then return range else failure

/-- A question mark that makes a count prefer less; what occurs in a text does not depend on it. -/
def lazyMark : Parser Unit := do
  skip
  let _ ← take? "?"

/-- The flags of a flag group, up to its colon or its end. The list holds the flags that have been set. -/
def flagLetters (fuel : Nat) (negated afterSign : Bool) (seen : List Char) (f : Flags) : Parser (Flags × Bool) := do
  match fuel with
  | 0 => failure
  | fuel + 1 =>
    let c ← next
    let on := !negated
    let continueWith (f : Flags) : Parser (Flags × Bool) :=
      if seen.contains c then failure else flagLetters fuel negated false (c :: seen) f
    match c with
    | ':' => if afterSign then failure else return (f, true)
    | ')' => if afterSign ∨ (seen.isEmpty ∧ !negated) then failure else return (f, false)
    | '-' => if negated then failure else flagLetters fuel true true seen f
    | 'i' => continueWith { f with ignoreCase := on }
    | 'm' => continueWith { f with multiLine := on }
    | 's' => continueWith { f with dotAll := on }
    | 'u' => continueWith { f with unicode := on }
    | 'x' => continueWith { f with verbose := on }
    | 'R' => continueWith { f with crlf := on }
    | 'U' => continueWith f
    | _ => failure

def isNameChar (first : Bool) (c : Char) : Bool :=
  let letter := c == '_' || (Property.ranges "Alphabetic").has c
  if first then letter
  else
    letter || c == '.' || c == '[' || c == ']' || (Category.ranges .decimalNumber).has c
      || (Category.ranges .letterNumber).has c || (Category.ranges .otherNumber).has c

/-- The name of a group, up to its closing angle; no two groups share one. -/
def groupName : Parser Unit := do
  let name ← takeWhile (· != '>')
  let _ ← next
  match name with
  | [] => failure
  | c :: rest =>
    if !isNameChar true c || !rest.all (isNameChar false) then failure
    let name := String.ofList name
    if (← get).names.contains name then failure
    modify fun s => { s with names := name :: s.names }

/-- One character, escape, dot or anchor outside brackets. -/
def primitive : Parser Pattern := do
  let f ← flags
  let c ← next
  match c with
  | '\\' =>
    match ← escape with
    | .literal n => return .set (fold f (single n))
    | .set r => return .set r
    | .anchor a => return .anchor a
  | '.' =>
    if !f.unicode then failure
    else if f.dotAll then return .set Ranges.all
    else if f.crlf then return .set (⟨[(0x0A, 0x0A), (0x0D, 0x0D)]⟩ : Ranges).complement
    else return .set (single 0x0A).complement
  | '^' => return .anchor (if f.multiLine then .lineStart f.crlf else .textStart)
  | '$' => return .anchor (if f.multiLine then .lineEnd f.crlf else .textEnd)
  | c => return .set (fold f (single c.toNat))

mutual

/-- Alternatives up to a closing parenthesis or the end. The first argument bounds the number of parts. -/
def alternatives : Nat → List Part → Parts → Parser Part
  | 0, _, _ => failure
  | fuel + 1, done, parts => do
    skip
    let finish : Part := joinAlternatives (done ++ [parts.join])
    match ← peek? with
    | none => return finish
    | some ')' => return finish
    | some '|' =>
      let _ ← next
      alternatives fuel (done ++ [parts.join]) []
    | some '(' =>
      let _ ← next
      let part ← group fuel
      alternatives fuel done (parts ++ [part])
    | some '[' =>
      let _ ← next
      let r ← bracket fuel
      alternatives fuel done (parts ++ [some ⟨.set r, 1⟩])
    | some '?' =>
      let _ ← next
      lazyMark
      alternatives fuel done (← repeatLast 0 (some 1) parts)
    | some '*' =>
      let _ ← next
      lazyMark
      alternatives fuel done (← repeatLast 0 none parts)
    | some '+' =>
      let _ ← next
      lazyMark
      alternatives fuel done (← repeatLast 1 none parts)
    | some '\x7b' =>
      let _ ← next
      let (least, most) ← count
      lazyMark
      alternatives fuel done (← repeatLast least most parts)
    | some _ =>
      let p ← primitive
      alternatives fuel done (parts ++ [some ⟨p, 0⟩])

/-- A group after its opening parenthesis; none for one that only sets flags. -/
def group : Nat → Parser (Option Part)
  | 0 => failure
  | fuel + 1 => do
    skip
    let outer ← flags
    let look ← ["?=", "?!", "?<=", "?<!"].anyM take?
    if look then failure
    let plain ← do
      if ← take? "?P<" then
        groupName
        pure true
      else if ← take? "?<" then
        groupName
        pure true
      else if ← take? "?" then
        let (inner, opens) ← flagLetters (fuel + 1) false false [] outer
        modify fun s => { s with flags := inner }
        pure opens
      else pure true
    if !plain then return none
    let part ← alternatives fuel [] []
    if !(← take? ")") then failure
    modify fun s => { s with flags := outer }
    return some ⟨part.pattern, part.depth + 1⟩

end

/-! ### Size -/

/-- The size that a set unfolds to. -/
def setCost (r : Ranges) : Nat :=
  if r.toList.all fun (_, high) => high < 0x80 then 32 + 8 * r.toList.length else 64 * (r.toList.length + 6)

/-- The size that a pattern unfolds to. -/
def cost : Pattern → Nat
  | .empty => 32
  | .set r => setCost r
  | .anchor _ => 32
  | .seq first second => first.cost + second.cost
  | .alt left right => left.cost + right.cost + 32
  | .repetition inner least most =>
    match most with
    | none => inner.cost * max least 1 + 64
    | some most => inner.cost * most + 32 * (most - least) + 32

/-- The largest size there may be. -/
def maxCost : Nat := 10 * Nat.pow 2 20

/-- The pattern that a text writes, if it writes one. -/
def ofText? (source : String) : Option Pattern :=
  let cs := source.toList
  match (alternatives (2 * cs.length + 2) [] []).run { rest := cs } with
  | some (part, cursor) =>
    if cursor.rest.isEmpty && part.depth ≤ maxDepth && part.pattern.cost ≤ maxCost then some part.pattern
    else none
  | none => none

end Questionnaire.Pattern
