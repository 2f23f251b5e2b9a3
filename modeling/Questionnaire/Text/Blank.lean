/-!
# White space

The characters with the White_Space property, and texts without such characters at their ends.
-/

namespace Questionnaire.Text

/-- The character has the White_Space property. -/
def isBlank (c : Char) : Bool :=
  let n := c.toNat
  (9 ≤ n && n ≤ 13) || n == 0x20 || n == 0x85 || n == 0xA0 || n == 0x1680 || (0x2000 ≤ n && n ≤ 0x200A)
    || n == 0x2028 || n == 0x2029 || n == 0x202F || n == 0x205F || n == 0x3000

/-- The list without the elements at its end that satisfy the test. -/
def dropLastWhile {α : Type} (p : α → Bool) : List α → List α
  | [] => []
  | a :: rest =>
    match dropLastWhile p rest with
    | [] => if p a then [] else [a]
    | kept => a :: kept

/-- The characters without white space at both ends. -/
def trimChars (cs : List Char) : List Char := dropLastWhile isBlank (cs.dropWhile isBlank)

/-- The text without white space at both ends. -/
def trim (s : String) : String := String.ofList (trimChars s.toList)

/-- Nothing but white space. -/
def isBlankText (s : String) : Bool := s.toList.all isBlank

end Questionnaire.Text
