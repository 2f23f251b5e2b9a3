import Questionnaire.Text.Category
import Questionnaire.Text.Property

/-!
# Texts in messages

A text inside a message stands in double quotes. Characters that cannot be seen by themselves, and marks that
would join the character before them, are written as their code point.
-/

namespace Questionnaire.Text

/-- The categories whose characters have no shape of their own. -/
def invisible : Ranges :=
  Ranges.unionAll
    ([Category.control, .format, .privateUse, .unassigned, .lineSeparator, .paragraphSeparator,
      .spaceSeparator].map Category.ranges)

def joining : Ranges := Property.ranges "Grapheme_Extend"

/-- A character between double quotes. -/
def quotedChar (c : Char) : List Char :=
  if c = '\x00' then ['\\', '0']
  else if c = '\t' then ['\\', 't']
  else if c = '\r' then ['\\', 'r']
  else if c = '\n' then ['\\', 'n']
  else if c = '"' then ['\\', '"']
  else if c = '\\' then ['\\', '\\']
  else if 0x20 ≤ c.toNat ∧ c.toNat < 0x7F then [c]
  else if joining.has c || invisible.has c then
    ['\\', 'u', '\x7b'] ++ Nat.toDigits 16 c.toNat ++ ['\x7d']
  else [c]

def quoted (s : String) : String := "\"" ++ String.ofList (s.toList.flatMap quotedChar) ++ "\""

end Questionnaire.Text
