/-!
# Grammars

Documents have patterns in them, and the addresses that pages lead to. Which texts are patterns or addresses, and which
ones a pattern fits, is not settled here: `Grammars` stands for whoever settles it. Validation, checking and sessions
work the same with any grammars.
-/

namespace Questionnaire

/-- The grammars of patterns and of addresses. -/
class Grammars where
  /-- The texts that a pattern fits, or what is said of one that cannot be read. -/
  compile : String → Except String (String → Bool)
  /-- The text is an address. -/
  isAddress : String → Bool

end Questionnaire
