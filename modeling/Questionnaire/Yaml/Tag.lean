import Questionnaire.Web.Percent
import Questionnaire.Yaml.Glyph

/-!
# Tags and directives

A tag is a handle and a suffix: `!!str` has the handle `!!`, `!quiz` the handle `!`, and a tag in angle brackets has
none. Handles stand for what a directive says, and without a directive for themselves or for the core tags.
-/

namespace Questionnaire.Yaml

/-- A tag as it is written. -/
structure Tag where
  handle : String
  suffix : String
deriving DecidableEq, Repr

/-- What directives say at the start of a document. -/
inductive Directive where
  | version (major minor : Nat)
  | tag (handle expansion : String)
deriving DecidableEq, Repr

namespace Tag

/-- What the core tags begin with. -/
def core : String := "tag:yaml.org,2002:"

/-- The handles that need no directive. -/
def defaultHandles : List (String × String) := [("!", "!"), ("!!", core)]

/-- The full name of the tag. A handle has to be known. -/
def name? (handles : List (String × String)) (t : Tag) : Option String :=
  if t.handle.isEmpty then some t.suffix
  else (handles.find? fun h => h.1 == t.handle).map fun h => h.2 ++ t.suffix

end Tag

/-! ### Reading -/

/-- A character of a tag; some stand only in a tag in angle brackets or in a directive. -/
def isTagChar (wide : Bool) (c : Char) : Bool :=
  isNameChar c || ";/?:@&=+$.%!~*'()".toList.contains c || (wide && ",[]".toList.contains c)

/-- The bytes that follow the first byte of a character. -/
def followers? (b : Nat) : Option Nat :=
  if b < 0x80 then some 0
  else if b / 0x20 = 6 then some 1
  else if b / 0x10 = 14 then some 2
  else if b / 8 = 30 then some 3
  else none

/-- A byte written with a percent sign. -/
def escapedByte? : Glyphs → Option (Nat × Glyphs)
  | p :: a :: b :: rest =>
    if p.char = '%' then
      match Web.hexDigit? a.char, Web.hexDigit? b.char with
      | some h, some l => some (h * 16 + l, rest)
      | _, _ => none
    else none
  | _ => none

def followingBytes? : Nat → Glyphs → Option (List UInt8 × Glyphs)
  | 0, t => some ([], t)
  | n + 1, t => do
    let (b, t) ← escapedByte? t
    if b / 0x40 = 2 then
      let (bs, t) ← followingBytes? n t
      return (UInt8.ofNat b :: bs, t)
    else none

/-- A character written in escaped bytes. -/
def escapedChar? (t : Glyphs) : Option (List UInt8 × Glyphs) := do
  let (b, t) ← escapedByte? t
  let (bs, t) ← followingBytes? (← followers? b) t
  return (UInt8.ofNat b :: bs, t)

/-- The bytes of a tag as far as it goes; the number of glyphs bounds how many characters there are. -/
def tagBytes? (wide : Bool) : Nat → Glyphs → Option (List UInt8 × Glyphs)
  | 0, t => some ([], t)
  | fuel + 1, t =>
    if !isTagChar wide t.char then some ([], t)
    else do
      let (bs, t) ← if t.char = '%' then escapedChar? t else some ([UInt8.ofNat t.char.toNat], t.skip 1)
      let (more, t) ← tagBytes? wide fuel t
      return (bs ++ more, t)

/-- The text of bytes; bytes that are no text name no tag that there is. -/
def tagText (bs : List UInt8) : String := (String.fromUTF8? (ByteArray.mk bs.toArray)).getD "?"

def tagChars? (wide : Bool) (t : Glyphs) : Option (String × Glyphs) := do
  let (bs, t) ← tagBytes? wide t.length t
  return (tagText bs, t)

/-- A handle, or the start of a tag that has none: an exclamation mark, letters, and perhaps another mark. -/
def handle? (t : Glyphs) : Option (String × Glyphs) :=
  if t.char ≠ '!' then none
  else
    let (name, t) := (t.skip 1).span isNameChar
    if t.char = '!' then some (String.ofList ('!' :: name ++ ['!']), t.skip 1)
    else some (String.ofList ('!' :: name), t)

/-- The handle ends with a mark of its own. -/
def isClosedHandle (handle : String) : Bool := 1 < handle.length && handle.toList.getLast? == some '!'

/-- A tag. After it comes a blank or, inside brackets, a comma. -/
def tag? (inFlow : Bool) (t : Glyphs) : Option (Tag × Glyphs) := do
  let (tag, t) ← (
    if t.charAt 1 = '<' then do
      let (suffix, t) ← tagChars? true (t.skip 2)
      if t.char = '>' && !suffix.isEmpty then some (⟨"", suffix⟩, t.skip 1) else none
    else do
      let (handle, t) ← handle? t
      let (suffix, t) ← tagChars? false t
      if isClosedHandle handle then
        if suffix.isEmpty then none else some (⟨handle, suffix⟩, t)
      else
        let suffix := String.ofList (handle.toList.drop 1) ++ suffix
        some (if suffix.isEmpty then ⟨"", "!"⟩ else ⟨"!", suffix⟩, t) : Option (Tag × Glyphs))
  if isBlankOrEnd t.char || (inFlow && t.char = ',') then some (tag, t) else none

/-- A part of a version: at most nine digits. -/
def versionNumber? (t : Glyphs) : Option (Nat × Glyphs) :=
  let (digits, t) := t.span Char.isDigit
  if digits.isEmpty || 9 < digits.length then none
  else some (digits.foldl (fun n c => n * 10 + (c.toNat - '0'.toNat)) 0, t)

def versionDirective? (t : Glyphs) : Option (Directive × Glyphs) := do
  let (major, t) ← versionNumber? (t.skipWhile isBlank)
  if t.char = '.' then
    let (minor, t) ← versionNumber? (t.skip 1)
    return (.version major minor, t)
  else none

def tagDirective? (t : Glyphs) : Option (Directive × Glyphs) := do
  let (handle, t) ← handle? (t.skipWhile isBlank)
  if (handle = "!" || isClosedHandle handle) && isBlank t.char then
    let (expansion, t) ← tagChars? true (t.skipWhile isBlank)
    if !expansion.isEmpty && isBlankOrEnd t.char then some (.tag handle expansion, t) else none
  else none

/-- A directive with the rest of its line, from the percent sign on. -/
def directive? (t : Glyphs) : Option (Directive × Glyphs) := do
  let (name, t) := (t.skip 1).span isNameChar
  if !isBlankOrEnd t.char then none
  else
    let (d, t) ←
      match String.ofList name with
      | "YAML" => versionDirective? t
      | "TAG" => tagDirective? t
      | _ => none
    let t := t.skipToLineEnd
    if isBreakOrEnd t.char then some (d, t.skipBreak) else none

end Questionnaire.Yaml
