/-!
# Percent encoding

Bytes written as a percent sign and two hexadecimal digits. Which characters need it depends on the part of an
address; everything outside ASCII and every control character always does.
-/

namespace Questionnaire.Web

/-- Characters, beside the controls and all that is not ASCII, that a part of an address must encode. -/
structure EncodeSet where
  chars : List Char

namespace EncodeSet

def controls : EncodeSet := ⟨[]⟩

def fragment : EncodeSet := ⟨[' ', '"', '<', '>', '\x60']⟩

def path : EncodeSet := ⟨fragment.chars ++ ['#', '?', '\x7b', '\x7d']⟩

def userinfo : EncodeSet := ⟨path.chars ++ ['/', ':', ';', '=', '@', '[', '\\', ']', '^', '|']⟩

def query : EncodeSet := ⟨[' ', '"', '#', '<', '>']⟩

/-- The query of an address whose scheme has hosts. -/
def specialQuery : EncodeSet := ⟨query.chars ++ ['\'']⟩

def needs (s : EncodeSet) (c : Char) : Bool := c.toNat < 0x20 || 0x7E < c.toNat || s.chars.contains c

end EncodeSet

def hexUpper (n : Nat) : Char := (Nat.digitChar (n % 16)).toUpper

def encodeByte (b : UInt8) : List Char := ['%', hexUpper (b.toNat / 16), hexUpper b.toNat]

def encodeChar (s : EncodeSet) (c : Char) : List Char :=
  if s.needs c then c.toString.toUTF8.toList.flatMap encodeByte else [c]

def encode (s : EncodeSet) (cs : List Char) : List Char := cs.flatMap (encodeChar s)

def hexDigit? (c : Char) : Option Nat :=
  if c.isDigit then some (c.toNat - '0'.toNat)
  else if 'a' ≤ c ∧ c ≤ 'f' then some (c.toNat - 'a'.toNat + 10)
  else if 'A' ≤ c ∧ c ≤ 'F' then some (c.toNat - 'A'.toNat + 10)
  else none

/-- The bytes of a text with every encoded byte decoded. -/
def decodeBytes : List Char → List UInt8
  | [] => []
  | '%' :: a :: b :: rest =>
    match hexDigit? a, hexDigit? b with
    | some h, some l => UInt8.ofNat (h * 16 + l) :: decodeBytes rest
    | _, _ => '%'.toUInt8 :: decodeBytes (a :: b :: rest)
  | c :: rest => c.toString.toUTF8.toList ++ decodeBytes rest

/-- The text with every encoded byte decoded, if its bytes are a text. -/
def decode? (cs : List Char) : Option (List Char) :=
  (String.fromUTF8? (ByteArray.mk (decodeBytes cs).toArray)).map String.toList

end Questionnaire.Web
