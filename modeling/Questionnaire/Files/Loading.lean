import Questionnaire.Files
import Questionnaire.Format

/-!
# Loading

Documents and scripts of answers are loaded from the files that paths lead to. The name of the file tells the format.
-/

namespace Questionnaire

/-- What follows the last point in the name of a file; a point at the beginning of the name does not count. -/
def fileExtension? (path : String) : Option String :=
  match ((pathNames path).filter fun name => name ≠ "" && name ≠ ".").getLast? with
  | none | some ".." => none
  | some name =>
    match (Text.splitOn '.' name.toList).reverse with
    | [] | [_] | [_, []] => none
    | ext :: _ => some (String.ofList ext)

/-- The format of a file: what is not called Json is read as Yaml. -/
def Format.ofPath (path : String) : Format :=
  match fileExtension? path with
  | some ext => if ext.toList.map Char.toLower = ['j', 's', 'o', 'n'] then .json else .yaml
  | none => .yaml

/-- The text of the file that a path leads to. -/
def loadText (find : String → Except FileProblem FileTree) (path : String) : Except Failure String :=
  match (find path).bind FileTree.text with
  | .ok s => .ok s
  | .error p => .error (.io p.message)

/-- The document in a file. -/
def loadDocument (find : String → Except FileProblem FileTree) (path : String) : Except Failure Document := do
  Document.ofText (Format.ofPath path) (← loadText find path)

/-- The answers in a file, page after page. -/
def loadScript (find : String → Except FileProblem FileTree) (path : String) : Except Failure (List Answers) := do
  Answers.scriptOfText (Format.ofPath path) (← loadText find path)

end Questionnaire
