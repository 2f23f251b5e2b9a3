import Questionnaire.Yaml.Scalar
import Questionnaire.Yaml.Tag

/-!
# Tokens

A Yaml text as tokens. Indentation becomes tokens for the start and the end of a block. That something is a key may
be known only from the colon after it: until then its place among the tokens is kept, so that the token for the key,
and for the start of a block if it is the first key, can be put in front of it.
-/

namespace Questionnaire.Yaml

/-- How a scalar is written: as plain words, or in quotes or as a block. -/
inductive Style where
  | plain | quoted
deriving DecidableEq, Repr

inductive Token where
  | directive (d : Directive)
  | documentStart
  | documentEnd
  | sequenceStart
  | mappingStart
  | blockEnd
  | flowSequenceStart
  | flowSequenceEnd
  | flowMappingStart
  | flowMappingEnd
  /-- The hyphen before an item of a block. -/
  | blockEntry
  /-- The comma between items inside brackets. -/
  | flowEntry
  | key
  | value
  | alias (name : String)
  | anchor (name : String)
  | tag (t : Tag)
  | scalar (text : String) (style : Style)
  /-- The end of the text. -/
  | finish
deriving DecidableEq, Repr

/-- The place of something that is a key if a colon follows it on its line. -/
structure KeyPlace where
  /-- How many tokens stand before it. -/
  position : Nat
  line : Nat
  column : Nat
  index : Nat
  /-- At this indentation there has to be a key. -/
  required : Bool

/-- A text that is being cut into tokens. -/
structure Reader where
  text : Glyphs
  /-- The tokens so far, latest first. -/
  tokens : List Token := []
  /-- The columns of the blocks around, innermost first. -/
  indents : List Nat := []
  /-- A key may begin here. -/
  keyAllowed : Bool := true
  /-- The place of a possible key outside of all brackets, or inside the innermost ones. -/
  keyPlace : Option KeyPlace := none
  /-- The places of possible keys around each pair of brackets, innermost first. -/
  outerKeys : List (Option KeyPlace) := []

namespace Reader

def inFlow (r : Reader) : Bool := !r.outerKeys.isEmpty

def indent (r : Reader) : Option Nat := r.indents.head?

/-- The column is to the right of the innermost block. -/
def isIndented (column : Nat) (r : Reader) : Bool :=
  match r.indent with
  | some i => i < column
  | none => true

def add (t : Token) (r : Reader) : Reader := { r with tokens := t :: r.tokens }

/-- A token put in front of those since a position. -/
def insert (position : Nat) (t : Token) (r : Reader) : Reader :=
  let later := r.tokens.length - position
  { r with tokens := r.tokens.take later ++ t :: r.tokens.drop later }

def skip (n : Nat) (r : Reader) : Reader := { r with text := r.text.skip n }

/-- The start of a block at a column, if it is to the right of the innermost one. -/
def openBlock (column position : Nat) (t : Token) (r : Reader) : Reader :=
  if !r.inFlow && r.isIndented column then { r with indents := column :: r.indents }.insert position t else r

/-- The ends of the blocks that are to the right of a column. -/
def closeBlocks (column : Option Nat) (r : Reader) : Reader :=
  if r.inFlow then r
  else
    let outer := r.indents.dropWhile fun i => (column.map fun c => decide (c < i)).getD true
    { r with
      indents := outer
      tokens := List.replicate (r.indents.length - outer.length) .blockEnd ++ r.tokens }

/-- A place is too far back for a key: keys stand on one line and have at most 1024 characters. -/
def isStale (t : Glyphs) (k : KeyPlace) : Bool := k.line < t.line || k.index + 1024 < t.index

/-- Possible keys that are too far back are none. A key that has to be there may not be missing. -/
def dropStale? (r : Reader) : Option Reader :=
  let bad (k : KeyPlace) : Bool := isStale r.text k && k.required
  let keep (k : Option KeyPlace) : Option KeyPlace := k.filter fun k => !isStale r.text k
  if (r.keyPlace :: r.outerKeys).any fun k => (k.map bad).getD false then none
  else some { r with keyPlace := keep r.keyPlace, outerKeys := r.outerKeys.map keep }

/-- The possible key is none. -/
def dropKey? (r : Reader) : Option Reader :=
  match r.keyPlace with
  | some k => if k.required then none else some { r with keyPlace := none }
  | none => some r

/-- Here begins what may turn out to be a key. -/
def markKey? (r : Reader) : Option Reader :=
  if r.keyAllowed then do
    let required := !r.inFlow && r.indent == some r.text.column
    let r ← r.dropKey?
    return { r with
      keyPlace := some ⟨r.tokens.length, r.text.line, r.text.column, r.text.index, required⟩ }
  else some r

/-! ### The tokens, kind by kind -/

/-- Blanks, comments and line breaks passed over; a bound on the lines comes first. A tab is no blank where a key
may begin. -/
def skipToToken : Nat → Reader → Reader
  | 0, r => r
  | fuel + 1, r =>
    let tabs := r.inFlow || !r.keyAllowed
    let t := r.text.skipWhile fun c => c == ' ' || (tabs && c == '\t')
    let t := if t.char = '#' then t.skipWhile fun c => !isBreakOrEnd c else t
    if isBreak t.char then
      skipToToken fuel { r with text := t.skipBreak, keyAllowed := if r.inFlow then r.keyAllowed else true }
    else { r with text := t }

/-- Everything before this place is closed: a directive or a document mark comes, or the end. -/
def reset? (r : Reader) : Option Reader := do
  let r ← (r.closeBlocks none).dropKey?
  return { r with keyAllowed := false }

def readDirective? (r : Reader) : Option Reader := do
  let r ← r.reset?
  let (d, t) ← directive? r.text
  return { r with text := t }.add (.directive d)

def readMark? (t : Token) (r : Reader) : Option Reader := do
  let r ← r.reset?
  return (r.skip 3).add t

def openFlow? (t : Token) (r : Reader) : Option Reader := do
  let r ← r.markKey?
  return ({ r with keyPlace := none, outerKeys := r.keyPlace :: r.outerKeys, keyAllowed := true }.skip 1).add t

def closeFlow? (t : Token) (r : Reader) : Option Reader := do
  let r ← r.dropKey?
  let r :=
    match r.outerKeys with
    | k :: rest => { r with keyPlace := k, outerKeys := rest }
    | [] => r
  return ({ r with keyAllowed := false }.skip 1).add t

def readFlowEntry? (r : Reader) : Option Reader := do
  let r ← r.dropKey?
  return ({ r with keyAllowed := true }.skip 1).add .flowEntry

def readBlockEntry? (r : Reader) : Option Reader := do
  if !r.inFlow && !r.keyAllowed then none
  else
    let r ← (r.openBlock r.text.column r.tokens.length .sequenceStart).dropKey?
    return ({ r with keyAllowed := true }.skip 1).add .blockEntry

def readKey? (r : Reader) : Option Reader := do
  if !r.inFlow && !r.keyAllowed then none
  else
    let r ← (r.openBlock r.text.column r.tokens.length .mappingStart).dropKey?
    return ({ r with keyAllowed := !r.inFlow }.skip 1).add .key

def readValue? (r : Reader) : Option Reader :=
  match r.keyPlace with
  | some k =>
    let r := (r.insert k.position .key).openBlock k.column k.position .mappingStart
    some (({ r with keyPlace := none, keyAllowed := false }.skip 1).add .value)
  | none =>
    if !r.inFlow && !r.keyAllowed then none
    else
      let r := r.openBlock r.text.column r.tokens.length .mappingStart
      some (({ r with keyAllowed := !r.inFlow }.skip 1).add .value)

/-- An alias or an anchor: a name with a blank or an indicator after it. -/
def readName? (t : String → Token) (r : Reader) : Option Reader := do
  let r ← r.markKey?
  let (name, rest) := (r.text.skip 1).span isNameChar
  if name.isEmpty || !(isBlankOrEnd rest.char || "?:,]\x7d%@\x60".toList.contains rest.char) then none
  else return { r with text := rest, keyAllowed := false }.add (t (String.ofList name))

def readTag? (r : Reader) : Option Reader := do
  let r ← r.markKey?
  let (tag, rest) ← tag? r.inFlow r.text
  return { r with text := rest, keyAllowed := false }.add (.tag tag)

def readBlock? (r : Reader) : Option Reader := do
  let r ← r.dropKey?
  let (cs, rest) ← block? r.indent r.text
  return { r with text := rest, keyAllowed := true }.add (.scalar (String.ofList cs) .quoted)

def readQuoted? (r : Reader) : Option Reader := do
  let r ← r.markKey?
  let (cs, rest) ← quoted? r.text
  return { r with text := rest, keyAllowed := false }.add (.scalar (String.ofList cs) .quoted)

/-- A plain text. After one that ends with its line a key may begin. -/
def readPlain? (r : Reader) : Option Reader := do
  let r ← r.markKey?
  let (cs, ended, rest) ← plain? r.inFlow ((r.indent.map (· + 1)).getD 0) r.text
  return { r with text := rest, keyAllowed := ended }.add (.scalar (String.ofList cs) .plain)

/-- The characters that a plain text cannot begin with, unless one of the first three is followed by one that is no
blank. -/
def indicators : List Char := "-?:,[]\x7b\x7d#&*!|>'\"%@\x60".toList

def startsPlain (r : Reader) : Bool :=
  let c := r.text.char
  let next := r.text.charAt 1
  !(isBlankOrEnd c || indicators.contains c) || (c == '-' && !isBlank next)
    || (!r.inFlow && (c == '?' || c == ':') && !isBlankOrEnd next)

/-- The next token, or several; the text does not end here. -/
def readToken? (r : Reader) : Option Reader :=
  let t := r.text
  let separate := isBlankOrEnd (t.charAt 1)
  if t.column == 0 && t.char == '%' then r.readDirective?
  else if t.isMarked '-' then r.readMark? .documentStart
  else if t.isMarked '.' then r.readMark? .documentEnd
  else
    match t.char with
    | '[' => r.openFlow? .flowSequenceStart
    | '\x7b' => r.openFlow? .flowMappingStart
    | ']' => r.closeFlow? .flowSequenceEnd
    | '\x7d' => r.closeFlow? .flowMappingEnd
    | ',' => r.readFlowEntry?
    | '*' => r.readName? .alias
    | '&' => r.readName? .anchor
    | '!' => r.readTag?
    | '\'' | '"' => r.readQuoted?
    | c =>
      if c == '-' && separate then r.readBlockEntry?
      else if c == '?' && (r.inFlow || separate) then r.readKey?
      else if c == ':' && (r.inFlow || separate) then r.readValue?
      else if (c == '|' || c == '>') && !r.inFlow then r.readBlock?
      else if r.startsPlain then r.readPlain?
      else none

/-- All tokens to the end. Every round but the last takes a glyph, and the fuel is more than there are. -/
def read? : Nat → Reader → Option (List Token)
  | 0, _ => none
  | fuel + 1, r => do
    let r ← (r.skipToToken fuel).dropStale?
    let r := r.closeBlocks (some r.text.column)
    if isEnd r.text.char then
      let r ← r.reset?
      return (Token.finish :: r.tokens).reverse
    else read? fuel (← r.readToken?)

end Reader

/-- The tokens of a text. -/
def Token.ofText? (s : String) : Option (List Token) := do
  let t ← Glyphs.ofText? s
  Reader.read? (t.length + 1) { text := t }

end Questionnaire.Yaml
