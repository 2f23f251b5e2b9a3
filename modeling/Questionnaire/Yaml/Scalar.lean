import Questionnaire.Web.Percent
import Questionnaire.Yaml.Glyph

/-!
# Scalars

The three ways to write a text: as plain words, in quotes, and as an indented block of lines. In the first two, and
in folded blocks, lines run together: a single line break counts as a blank, and of several breaks the first one
does not count.

Where a loop has a `fuel`, it is the number of glyphs ahead, of which every round takes at least one.
-/

namespace Questionnaire.Yaml

/-- What stands between two words. -/
inductive Gap where
  | blanks (cs : List Char)
  /-- Lines end between the words: the first break and the others. -/
  | breaks (first : Char) (more : List Char)
  /-- A line ends between the words, but its break does not count. -/
  | joined (more : List Char)

namespace Gap

/-- What is left of the gap in the text. -/
def folded : Gap → List Char
  | blanks cs => cs
  | breaks '\n' [] => [' ']
  | breaks '\n' more => more
  | breaks c more => c :: more
  | joined more => more

/-- A line ends in the gap. -/
def hasBreak : Gap → Bool
  | blanks _ => false
  | _ => true

/-- The gap with one more line break. -/
def addBreak (c : Char) : Gap → Gap
  | blanks _ => breaks c []
  | breaks first more => breaks first (more ++ [c])
  | joined more => joined (more ++ [c])

/-- The gap with one more blank. Blanks at the start of a line do not count. -/
def addBlank (c : Char) : Gap → Gap
  | blanks cs => blanks (cs ++ [c])
  | gap => gap

/-- The rest of a gap. A tab may not stand where a line has to be indented. -/
def read? (indent : Nat) (gap : Gap) : Glyphs → Option (Gap × Glyphs)
  | [] => some (gap, [])
  | g :: rest =>
    if isBlank g.char then
      if gap.hasBreak && g.column < indent && g.char == '\t' then none
      else read? indent (gap.addBlank g.char) rest
    else if isBreak g.char then read? indent (gap.addBreak g.char) rest
    else some (gap, g :: rest)

end Gap

/-! ### Plain words -/

def isFlowChar (c : Char) : Bool := c == ',' || c == '[' || c == ']' || c == '\x7b' || c == '\x7d'

/-- A plain text ends here: before a colon that is followed by a blank, and inside brackets before a comma or a
bracket. -/
def endsPlain (inFlow : Bool) (t : Glyphs) : Bool :=
  (t.char == ':' && isBlankOrEnd (t.charAt 1)) || (inFlow && isFlowChar t.char)

/-- Inside brackets a colon may not stand right before a bracket, a comma or a question mark. -/
def hasStrayColon (inFlow : Bool) (t : Glyphs) : Bool :=
  inFlow && t.char == ':' && (isFlowChar (t.charAt 1) || t.charAt 1 == '?')

/-- The characters of a word. -/
def plainWord? (inFlow : Bool) : Glyphs → Option (List Char × Glyphs)
  | [] => some ([], [])
  | g :: rest =>
    if isBlankOrEnd g.char then some ([], g :: rest)
    else if hasStrayColon inFlow (g :: rest) then none
    else if endsPlain inFlow (g :: rest) then some ([], g :: rest)
    else (plainWord? inFlow rest).map fun (cs, rest) => (g.char :: cs, rest)

/-- Plain words, after a gap. The text so far is kept backwards. The flag says whether the last gap, which is no
part of the text, ends a line. -/
def plainWords? (inFlow : Bool) (indent : Nat) :
    Nat → Gap → List Char → Glyphs → Option (List Char × Bool × Glyphs)
  | 0, gap, acc, t => some (acc.reverse, gap.hasBreak, t)
  | fuel + 1, gap, acc, t =>
    if t.isDocumentMark || t.char == '#' then some (acc.reverse, gap.hasBreak, t)
    else
      match plainWord? inFlow t with
      | none => none
      | some (word, t) =>
        let acc := if word.isEmpty then acc else word.reverse ++ gap.folded.reverse ++ acc
        let gap := if word.isEmpty then gap else .blanks []
        if isBlank t.char || isBreak t.char then
          match gap.read? indent t with
          | none => none
          | some (gap, t) =>
            if !inFlow && t.column < indent then some (acc.reverse, gap.hasBreak, t)
            else plainWords? inFlow indent fuel gap acc t
        else some (acc.reverse, gap.hasBreak, t)

/-- A plain text whose further lines are indented so far. -/
def plain? (inFlow : Bool) (indent : Nat) (t : Glyphs) : Option (List Char × Bool × Glyphs) :=
  plainWords? inFlow indent t.length (.blanks []) [] t

/-! ### Quoted texts -/

/-- The value of so many hexadecimal digits. -/
def hexValue? : Nat → Nat → Glyphs → Option (Nat × Glyphs)
  | 0, value, t => some (value, t)
  | n + 1, value, g :: rest =>
    match Web.hexDigit? g.char with
    | some d => hexValue? n (value * 16 + d) rest
    | none => none
  | _ + 1, _, [] => none

/-- The character of an escape of one letter. -/
def escaped? (c : Char) : Option Char :=
  match c with
  | '0' => some '\x00'
  | 'a' => some '\x07'
  | 'b' => some '\x08'
  | 't' | '\t' => some '\t'
  | 'n' => some '\n'
  | 'v' => some '\x0b'
  | 'f' => some '\x0c'
  | 'r' => some '\r'
  | 'e' => some '\x1b'
  | ' ' => some ' '
  | '"' => some '"'
  | '/' => some '/'
  | '\\' => some '\\'
  | 'N' => some '\u0085'
  | '_' => some '\u00a0'
  | 'L' => some '\u2028'
  | 'P' => some '\u2029'
  | _ => none

/-- The number of digits of an escape by number. -/
def escapeLength? (c : Char) : Option Nat :=
  match c with
  | 'x' => some 2
  | 'u' => some 4
  | 'U' => some 8
  | _ => none

/-- The character of an escape and the rest after it. -/
def escape? (t : Glyphs) : Option (Char × Glyphs) :=
  match t with
  | [] => none
  | g :: rest =>
    match escapeLength? g.char with
    | some n => do
      let (value, rest) ← hexValue? n 0 rest
      if value.isValidChar then return (Char.ofNat value, rest) else none
    | none => (escaped? g.char).map fun c => (c, rest)

/-- The characters up to a blank, a break or the closing quote, backwards onto those so far. The flag says that the
line was ended with a backslash. -/
def quotedWord? (quote : Char) : Nat → List Char → Glyphs → Option (List Char × Bool × Glyphs)
  | 0, _, _ => none
  | fuel + 1, acc, t =>
    let c := t.char
    let double := quote == '"'
    if isBlankOrEnd c then some (acc, false, t)
    else if !double && c == '\'' && t.charAt 1 == '\'' then quotedWord? quote fuel ('\'' :: acc) (t.skip 2)
    else if c == quote then some (acc, false, t)
    else if double && c == '\\' then
      if isBreak (t.charAt 1) then some (acc, true, t.skip 2)
      else
        match escape? (t.skip 1) with
        | some (c, t) => quotedWord? quote fuel (c :: acc) t
        | none => none
    else quotedWord? quote fuel (c :: acc) (t.skip 1)

def quotedWords? (quote : Char) : Nat → List Char → Glyphs → Option (List Char × Glyphs)
  | 0, _, _ => none
  | fuel + 1, acc, t =>
    if t.isDocumentMark || isEnd t.char then none
    else
      match quotedWord? quote (t.length + 1) acc t with
      | none => none
      | some (acc, joins, t) =>
        if t.char == quote then some (acc.reverse, t.skip 1)
        else
          match (if joins then Gap.joined [] else .blanks []).read? 0 t with
          | none => none
          | some (gap, t) => quotedWords? quote fuel (gap.folded.reverse ++ acc) t

/-- A quoted text, from its opening quote on. -/
def quoted? (t : Glyphs) : Option (List Char × Glyphs) := quotedWords? t.char (t.length + 1) [] (t.skip 1)

/-! ### Blocks of lines -/

/-- What becomes of the line breaks at the end of a block. -/
inductive Chomping where
  | strip | clip | keep
deriving DecidableEq, Repr

/-- Empty lines before the next line of a block: their breaks, and the widest indentation seen. While the
indentation is not known, it is zero, and all blanks count to it. -/
def blockBreaks? (indent width : Nat) (acc : List Char) : Glyphs → Option (List Char × Nat × Glyphs)
  | [] => some (acc, width, [])
  | g :: rest =>
    let indenting := indent == 0 || g.column < indent
    if indenting && g.char == ' ' then blockBreaks? indent width acc rest
    else if indenting && g.char == '\t' then none
    else if isBreak g.char then blockBreaks? indent (max width g.column) (acc ++ [g.char]) rest
    else some (acc, max width g.column, g :: rest)

/-- What is read of a block: the text backwards, the break after its last line, the breaks of the empty lines
since, and whether the last line began with a blank. -/
structure Block where
  text : List Char := []
  ending : List Char := []
  breaks : List Char
  spaced : Bool := false

/-- The block with one more line. A folded line joins the one before unless one of them begins with a blank. -/
def Block.add (folded : Bool) (line ending : List Char) (b : Block) : Block :=
  let spaced := isBlank (line.headD endMark)
  let joint :=
    if folded && b.ending == ['\n'] && !b.spaced && !spaced then (if b.breaks.isEmpty then [' '] else [])
    else b.ending
  { text := line.reverse ++ b.breaks.reverse ++ joint.reverse ++ b.text, ending := ending, breaks := [],
    spaced := spaced }

def blockLines? (folded : Bool) (indent : Nat) : Nat → Block → Glyphs → Option (Block × Glyphs)
  | 0, b, t => some (b, t)
  | fuel + 1, b, t =>
    if t.column != indent || isEnd t.char then some (b, t)
    else
      let (line, t) := t.span fun c => !isBreakOrEnd c
      let ending := if isBreak t.char then [t.char] else []
      match blockBreaks? indent 0 [] t.skipBreak with
      | none => none
      | some (breaks, _, t) => blockLines? folded indent fuel { b.add folded line ending with breaks := breaks } t

def chomping? (c : Char) : Option Chomping :=
  match c with
  | '+' => some .keep
  | '-' => some .strip
  | _ => none

def isIncrement (c : Char) : Bool := '1' ≤ c && c ≤ '9'

/-- The header of a block: how it ends and how far it is indented, in either order. -/
def blockHeader (t : Glyphs) : Chomping × Nat × Glyphs :=
  let digit (c : Char) : Nat := c.toNat - '0'.toNat
  match chomping? t.char with
  | some ch => if isIncrement (t.charAt 1) then (ch, digit (t.charAt 1), t.skip 2) else (ch, 0, t.skip 1)
  | none =>
    if isIncrement t.char then
      match chomping? (t.charAt 1) with
      | some ch => (ch, digit t.char, t.skip 2)
      | none => (.clip, digit t.char, t.skip 1)
    else (.clip, 0, t)

/-- A block of lines, from its indicator on, under a parent that is indented so far, if at all. -/
def block? (parent : Option Nat) (t : Glyphs) : Option (List Char × Glyphs) :=
  let folded := t.char == '>'
  let (chomping, increment, t) := blockHeader (t.skip 1)
  let t := t.skipToLineEnd
  if !isBreakOrEnd t.char then none
  else
    let least := (parent.map (· + 1)).getD 0
    let indent := if increment = 0 then 0 else parent.getD 0 + increment
    match blockBreaks? indent 0 [] t.skipBreak with
    | none => none
    | some (breaks, width, t) =>
      let indent := if indent = 0 then max (max width least) 1 else indent
      match blockLines? folded indent t.length { breaks := breaks } t with
      | none => none
      | some (b, t) =>
        let tail :=
          match chomping with
          | .strip => []
          | .clip => b.ending
          | .keep => b.ending ++ b.breaks
        some (b.text.reverse ++ tail, t)

end Questionnaire.Yaml
