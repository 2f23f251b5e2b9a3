import Questionnaire.Document.Writing
import Questionnaire.Files
import Questionnaire.Format

/-!
# Stores in folders

A store of answers that keeps each key in a file of its own. The name of the file is the key with everything but
letters, digits, hyphens and underscores replaced, so that keys which differ only there share a file.
-/

namespace Questionnaire

structure FileStore where
  /-- The folder has been made. -/
  made : Bool := false
  items : List (String × FileTree) := []

namespace FileStore

/-- The character can stand in the name of a file. -/
def isPlain (c : Char) : Bool := c.isAlphanum || c == '-' || c == '_'

/-- The name of the file of a key. -/
def fileName (key : String) : String :=
  String.ofList (key.toList.map fun c => if isPlain c then c else '_') ++ ".json"

/-- The item of a key. -/
def item (s : FileStore) (key : String) : Except FileProblem FileTree :=
  (FileTree.folder s.items).follow [] [fileName key]

/-- The answers of a key, if there are any. -/
def get (s : FileStore) (key : String) : Except Failure (Option Answers) :=
  if s.made then
    match (s.item key).bind FileTree.text with
    | .ok content => some <$> Answers.ofText .json content
    | .error .notFound => .ok none
    | .error p => .error (.io p.message)
  else .ok none

/-- What a session finds in the store under its key. Where nothing can be read there is nothing. -/
def cached (s : FileStore) (key : String) : Entries Answers :=
  match s.get key with
  | .ok (some answers) => Entries.ofList [(key, answers)]
  | _ => ∅

/-- The answers of a key replaced; the folder is made in any case. -/
def set (s : FileStore) (key : String) (answers : Answers) : FileStore × Except Failure Unit :=
  let s := { s with made := true }
  let written := { s with
    items := Members.insert (fileName key) (.ofText (Json.object answers.toList).compact) s.items }
  match s.item key with
  | .ok (.file _) | .error .notFound => (written, .ok ())
  | .ok (.folder _) => (s, .error (.io FileProblem.isFolder.message))
  | .error p => (s, .error (.io p.message))

/-- The answers of a key removed; there need not be any. -/
def clear (s : FileStore) (key : String) : FileStore × Except Failure Unit :=
  if s.made then
    match s.item key with
    | .ok (.file _) => ({ s with items := Members.erase (fileName key) s.items }, .ok ())
    | .ok (.folder _) => (s, .error (.io FileProblem.isFolder.message))
    | .error .notFound => (s, .ok ())
    | .error p => (s, .error (.io p.message))
  else (s, .ok ())

/-- The names in the folder. -/
def names (s : FileStore) : List String := Members.names s.items

/-- The folder with another item, put there by someone else. -/
def place (name : String) (item : FileTree) (s : FileStore) : FileStore :=
  { made := true, items := Members.insert name item s.items }

end FileStore

end Questionnaire
