import Questionnaire.Web.Percent
import Questionnaire.Web.Punycode
import Questionnaire.Text.CaseFolding
import Questionnaire.Text.Category
import Questionnaire.Text.Split

/-!
# Hosts

The host of an address is a name, or a number of 32 or 128 bits. A name is compared in lower case and in ASCII;
a name that ends in a number has to be a number as a whole.
-/

namespace Questionnaire.Web

/-- Why a text is no address. -/
inductive AddressError where
  | emptyHost | badName | badPort | badIpv4 | badIpv6 | badCharacter | relative
deriving DecidableEq, Repr

def AddressError.message : AddressError → String
  | .emptyHost => "empty host"
  | .badName => "invalid international domain name"
  | .badPort => "invalid port number"
  | .badIpv4 => "invalid IPv4 address"
  | .badIpv6 => "invalid IPv6 address"
  | .badCharacter => "invalid domain character"
  | .relative => "relative URL without a base"

/-! ### Numbers of 32 bits -/

/-- A part of a number address: decimal, octal after a zero, or hexadecimal after `0x`. -/
def ipv4Part? (cs : List Char) : Option Nat :=
  let digits (base : Nat) (cs : List Char) : Option Nat := do
    let ds ← cs.mapM hexDigit?
    if ds.all (· < base) then some (ds.foldl (fun n d => n * base + d) 0) else none
  match cs with
  | [] => none
  | '0' :: 'x' :: rest | '0' :: 'X' :: rest => if rest.isEmpty then some 0 else digits 16 rest
  | '0' :: d :: rest => digits 8 (d :: rest)
  | cs => digits 10 cs

/-- The last label of a name, or the one before it if the name ends in a point. -/
def lastLabel? (name : List Char) : Option (List Char) :=
  match (Text.splitOn '.' name).reverse with
  | [] :: label :: _ => some label
  | [[]] => none
  | label :: _ => some label
  | [] => none

def endsInNumber (name : List Char) : Bool :=
  match lastLabel? name with
  | some label => (!label.isEmpty && label.all Char.isDigit) || (ipv4Part? label).isSome
  | none => false

/-- All parts but the last are bytes; the last one fills what is left. -/
def ipv4? (name : List Char) : Option Nat := do
  let parts := Text.splitOn '.' name
  let parts := if parts.getLast? == some [] then parts.dropLast else parts
  if 4 < parts.length then none
  let numbers ← parts.mapM ipv4Part?
  let last ← numbers.getLast?
  let bytes := numbers.dropLast
  if Nat.pow 256 (4 - bytes.length) ≤ last then none
  if bytes.any (255 < ·) then none
  return bytes.zipIdx.foldl (fun n (b, i) => n + b * Nat.pow 256 (3 - i)) last

def ipv4Text (n : Nat) : List Char :=
  Text.joinWith '.' ([3, 2, 1, 0].map fun i => Nat.toDigits 10 (n / Nat.pow 256 i % 256))

/-! ### Numbers of 128 bits -/

def ipv6Piece? (cs : List Char) : Option Nat :=
  if cs.isEmpty ∨ 4 < cs.length then none
  else (cs.mapM hexDigit?).map fun ds => ds.foldl (fun n d => n * 16 + d) 0

/-- Four bytes in decimal, without needless zeros, as two pieces. -/
def dottedPieces? (cs : List Char) : Option (List Nat) := do
  let parts := Text.splitOn '.' cs
  let byte (part : List Char) : Option Nat :=
    if part.isEmpty || !part.all Char.isDigit || (1 < part.length && part.head? == some '0') || 3 < part.length then none
    else
      let n := part.foldl (fun n c => n * 10 + (c.toNat - '0'.toNat)) 0
      if n ≤ 255 then some n else none
  match ← parts.mapM byte with
  | [a, b, c, d] => some [a * 256 + b, c * 256 + d]
  | _ => none

/-- Pieces between colons; the last one may be in decimal with points. -/
def ipv6Pieces? (final : Bool) (cs : List Char) : Option (List Nat) :=
  if cs.isEmpty then some []
  else
    let parts := Text.splitOn ':' cs
    match parts.reverse with
    | last :: before => do
      let pieces ← before.reverse.mapM ipv6Piece?
      let ending ← if final && last.contains '.' then dottedPieces? last else (ipv6Piece? last).map ([·])
      return pieces ++ ending
    | [] => some []

/-- The text around the first pair of colons. -/
def splitPair? : List Char → Option (List Char × List Char)
  | ':' :: ':' :: rest => some ([], rest)
  | c :: rest => (splitPair? rest).map fun (a, b) => (c :: a, b)
  | [] => none

/-- Eight pieces, where a pair of colons stands for one zero or more. -/
def ipv6? (cs : List Char) : Option (List Nat) :=
  match splitPair? cs with
  | some (left, right) => do
    let left ← ipv6Pieces? false left
    let right ← ipv6Pieces? true right
    if 7 < left.length + right.length then none
    return left ++ List.replicate (8 - left.length - right.length) 0 ++ right
  | none => do
    let pieces ← ipv6Pieces? true cs
    if pieces.length = 8 then some pieces else none

/-- The length of the run of zeros at the head. -/
def zeroRun (pieces : List Nat) : Nat := (pieces.takeWhile (· == 0)).length

/-- The first of the longest runs of at least two zeros: where it begins and how long it is. -/
def longestZeroRun (pieces : List Nat) : Option (Nat × Nat) :=
  (List.range pieces.length).foldl
    (fun best i =>
      let n := zeroRun (pieces.drop i)
      match best with
      | some (_, m) => if m < n then some (i, n) else best
      | none => if 2 ≤ n then some (i, n) else none) none

def ipv6Text (pieces : List Nat) : List Char :=
  let write (ps : List Nat) := Text.joinWith ':' (ps.map (Nat.toDigits 16))
  match longestZeroRun pieces with
  | some (i, n) => write (pieces.take i) ++ [':', ':'] ++ write (pieces.drop (i + n))
  | none => write pieces

/-! ### Names -/

/-- Characters that no name may hold. -/
def isForbidden (c : Char) : Bool :=
  c.toNat ≤ 0x20 || c.toNat == 0x7F || "#/:<>?@[\\]^|%".toList.contains c

/-- Characters that do not count in a name. -/
def isIgnored (c : Char) : Bool :=
  let n := c.toNat
  n == 0xAD || n == 0x34F || (0x180B ≤ n && n ≤ 0x180D) || n == 0x180F || n == 0x200B || n == 0x2060 || n == 0x2064
    || (0xFE00 ≤ n && n ≤ 0xFE0F) || n == 0xFEFF || (0xE0100 ≤ n && n ≤ 0xE01EF)

/-- The categories of characters that names are never made of. -/
def unnameable : Text.Ranges :=
  Text.Ranges.unionAll
    ([Text.Category.control, .format, .privateUse, .unassigned, .spaceSeparator, .lineSeparator,
      .paragraphSeparator].map Text.Category.ranges)

def marks : Text.Ranges :=
  Text.Ranges.unionAll ([Text.Category.nonspacingMark, .spacingMark, .enclosingMark].map Text.Category.ranges)

/-- The form of a character in names: lower case, of ordinary width, and nothing for what does not count. -/
def mapNameChar? (c : Char) : Option (List Char) :=
  let n := c.toNat
  if n < 0x80 then some [c.toLower]
  else if isIgnored c then some []
  else if n == 0x3002 || n == 0xFF0E || n == 0xFF61 then some ['.']
  else if 0xFF01 ≤ n && n ≤ 0xFF5E then some [(Char.ofNat (n - 0xFEE0)).toLower]
  else if n == 0x1E9E then some ['s', 's']
  else if n == 0xDF || n == 0x3C2 || n == 0x200C || n == 0x200D then some [c]
  else if unnameable.has c then none
  else some [Char.ofNat (Text.CaseFolding.fold n)]

/-- A label in ASCII. One that is in ASCII form already has to stand for a label of mapped characters. -/
def asciiLabel? (label : List Char) : Option (List Char) :=
  match label with
  | 'x' :: 'n' :: '-' :: '-' :: rest => do
    let decoded ← Punycode.decode? rest
    if decoded.isEmpty || decoded.all (fun c => c.toNat < 0x80) then none
    if (decoded.head?.map marks.has).getD false then none
    if ← decoded.allM fun c => (mapNameChar? c).map (· == [c]) then some label else none
  | label =>
    if label.all fun c => c.toNat < 0x80 then some label
    else if (label.head?.map marks.has).getD false then none
    else some (['x', 'n', '-', '-'] ++ Punycode.encode label)

/-- A name in lower case and in ASCII. -/
def asciiName? (name : List Char) : Option (List Char) := do
  let mapped ← name.mapM mapNameChar?
  let labels ← (Text.splitOn '.' mapped.flatten).mapM asciiLabel?
  let ascii := Text.joinWith '.' labels
  if ascii.any isForbidden then none else some ascii

/-- The host of an address whose scheme has hosts, in its normal form. -/
def normalHost (cs : List Char) : Except AddressError (List Char) :=
  match cs with
  | '[' :: rest =>
    match if rest.getLast? == some ']' then ipv6? rest.dropLast else none with
    | some pieces => .ok (['['] ++ ipv6Text pieces ++ [']'])
    | none => .error .badIpv6
  | cs =>
    match (decode? cs).bind asciiName? with
    | none => .error .badName
    | some name =>
      if name.isEmpty then .error .emptyHost
      else if endsInNumber name then
        match ipv4? name with
        | some n => .ok (ipv4Text n)
        | none => .error .badIpv4
      else .ok name

/-- The host of an address of any other scheme, which is taken as it is. -/
def normalOpaqueHost (cs : List Char) : Except AddressError (List Char) :=
  match cs with
  | '[' :: rest =>
    match if rest.getLast? == some ']' then ipv6? rest.dropLast else none with
    | some pieces => .ok (['['] ++ ipv6Text pieces ++ [']'])
    | none => .error .badIpv6
  | cs =>
    if cs.any fun c => "\x00\t\n\r #/:<>?@[\\]^|".toList.contains c then .error .badCharacter
    else .ok (encode .controls cs)

end Questionnaire.Web
