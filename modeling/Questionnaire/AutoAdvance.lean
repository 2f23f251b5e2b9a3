import Questionnaire.Document

/-!
# Pages that move on by themselves

A page moves on when its only answer is given by one pick, so that nobody has to press its button.
-/

namespace Questionnaire

/-- The block ends its page once it is answered. -/
def Block.advancesItself (b : Block) : Bool :=
  match b.kind with
  | .loader | .dropdown => true
  | .multipleChoice | .pictureChoice => !b.isMultiple
  | _ => false

/-- An answer to one of these blocks moves on without a click. -/
def shouldAutoAdvance (visible : List Block) : Bool :=
  visible.countP (fun b => b.kind.isAnswerable) ≤ 1 && visible.any Block.advancesItself

end Questionnaire
