/-!
# Splitting

A text cut at every occurrence of a separator, and parts put together again.
-/

namespace Questionnaire.Text

/-- The parts of a text between separators. -/
def splitOn (separator : Char) : List Char → List (List Char)
  | [] => [[]]
  | c :: rest =>
    match splitOn separator rest with
    | [] => [[c]]
    | part :: parts => if c = separator then [] :: part :: parts else (c :: part) :: parts

/-- Parts with a separator between any two. -/
def joinWith (separator : Char) (parts : List (List Char)) : List Char := List.intercalate [separator] parts

end Questionnaire.Text
