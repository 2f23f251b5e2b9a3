/-!
# Text with places

A Yaml text as a list of glyphs: characters that know their line and column. Line breaks of all kinds but two are
written as one line feed, and after the last character stands `Glyph.endMark`, which is no character of any
text.
-/

namespace Questionnaire.Yaml

structure Glyph where
  char : Char
  line : Nat
  column : Nat
  /-- How many glyphs there are before this one. -/
  index : Nat
deriving DecidableEq, Repr

abbrev Glyphs := List Glyph

/-- A character that ends a line. -/
def isBreak (c : Char) : Bool := c == '\n' || c == '\u2028' || c == '\u2029'

def isBlank (c : Char) : Bool := c == ' ' || c == '\t'

/-- What stands after the last character of a text. -/
def endMark : Char := '\x00'

def isEnd (c : Char) : Bool := c == endMark

def isBreakOrEnd (c : Char) : Bool := isBreak c || isEnd c

def isBlankOrEnd (c : Char) : Bool := isBlank c || isBreakOrEnd c

/-- Letters, digits, hyphen and underscore, all of them ASCII. -/
def isNameChar (c : Char) : Bool := c.isAlphanum || c == '-' || c == '_'

/-- The characters that a text may be made of. -/
def isAllowed (c : Char) : Bool :=
  let n := c.toNat
  n == 9 || n == 10 || n == 13 || (0x20 ≤ n && n ≤ 0x7E) || n == 0x85 || (0xA0 ≤ n && n ≤ 0xFFFD) || 0x10000 ≤ n

namespace Glyphs

/-- Every line break as it is kept: the line and the paragraph separator as they are, all others as a line feed. -/
def plainBreaks : List Char → List Char
  | '\r' :: '\n' :: rest => '\n' :: plainBreaks rest
  | '\r' :: rest | '\u0085' :: rest => '\n' :: plainBreaks rest
  | c :: rest => c :: plainBreaks rest
  | [] => []

/-- The glyphs of characters from a place on, with the end mark. -/
def place (line column index : Nat) : List Char → Glyphs
  | [] => [⟨endMark, line, column, index⟩]
  | c :: rest =>
    ⟨c, line, column, index⟩
      :: (if isBreak c then place (line + 1) 0 (index + 1) rest else place line (column + 1) (index + 1) rest)

/-- The glyphs of a text, if it is made of characters that are allowed. A byte order mark in front does not
count. -/
def ofText? (s : String) : Option Glyphs :=
  let cs :=
    match s.toList with
    | '\ufeff' :: rest => rest
    | cs => cs
  if cs.all isAllowed then some (place 0 0 0 (plainBreaks cs)) else none

/-- The next character. -/
def char : Glyphs → Char
  | g :: _ => g.char
  | [] => endMark

/-- The character after so many others. -/
def charAt (n : Nat) (t : Glyphs) : Char := ((t[n]?).map Glyph.char).getD endMark

def column : Glyphs → Nat
  | g :: _ => g.column
  | [] => 0

def line : Glyphs → Nat
  | g :: _ => g.line
  | [] => 0

def index : Glyphs → Nat
  | g :: _ => g.index
  | [] => 0

/-- The rest after so many characters. -/
def skip (n : Nat) (t : Glyphs) : Glyphs := t.drop n

/-- The characters as long as they satisfy the test, and the rest. -/
def span (p : Char → Bool) : Glyphs → List Char × Glyphs
  | g :: rest =>
    if p g.char then
      let (cs, rest) := span p rest
      (g.char :: cs, rest)
    else ([], g :: rest)
  | [] => ([], [])

def skipWhile (p : Char → Bool) (t : Glyphs) : Glyphs := t.dropWhile fun g => p g.char

/-- The rest after a line break, if there is one. -/
def skipBreak : Glyphs → Glyphs
  | g :: rest => if isBreak g.char then rest else g :: rest
  | [] => []

/-- Blanks and a comment passed over, as they may end a line. -/
def skipToLineEnd (t : Glyphs) : Glyphs :=
  let t := t.skipWhile isBlank
  if t.char = '#' then t.skipWhile fun c => !isBreakOrEnd c else t

/-- A line begins here with three such characters and a blank or nothing after them. -/
def isMarked (c : Char) (t : Glyphs) : Bool :=
  t.column == 0 && t.charAt 0 == c && t.charAt 1 == c && t.charAt 2 == c && isBlankOrEnd (t.charAt 3)

/-- A line begins here that starts or ends a document. -/
def isDocumentMark (t : Glyphs) : Bool := t.isMarked '-' || t.isMarked '.'

end Glyphs

end Questionnaire.Yaml
