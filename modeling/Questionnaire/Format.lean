import Questionnaire.Document.Reading
import Questionnaire.Draft.YamlText
import Questionnaire.Failure

/-!
# Formats

Documents, and the answers for a session that runs by a script, come as texts in one of two formats.
-/

namespace Questionnaire

inductive Format where
  | json
  | yaml
deriving DecidableEq, Repr

namespace Format

/-- The value that a text gives. What is wrong with a Yaml text is not told. -/
def read {α : Type} (f : Format) (reader : Origin → Draft → Except ReadError α) (s : String) : Except Failure α :=
  match f with
  | .json =>
    match Draft.readJsonText (reader .json) s with
    | .ok a => .ok a
    | .error e => .error (.json e)
  | .yaml =>
    match (Draft.ofYamlText? s).map (reader .yaml) with
    | some (.ok a) => .ok a
    | _ => .error .yaml

end Format

/-- The document that a text writes. -/
def Document.ofText (f : Format) (s : String) : Except Failure Document := f.read Reading.document s

namespace Answers

/-- The answers of one text. -/
def ofText (f : Format) (s : String) : Except Failure Answers := f.read (fun _ => Reading.answers) s

/-- The answers of page after page. -/
def scriptOfText (f : Format) (s : String) : Except Failure (List Answers) :=
  f.read (fun _ => Draft.readList Reading.answers) s

end Answers

end Questionnaire
