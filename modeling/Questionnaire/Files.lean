import Questionnaire.Entries
import Questionnaire.Text.Split

/-!
# Files

Trees of files and folders, as far as documents, answers and caches need them: a file is found by following a path
from folder to folder, and read as a text.
-/

namespace Questionnaire

inductive FileTree where
  | file (content : ByteArray)
  | folder (items : List (String × FileTree))

/-- Why a file is not read or written. -/
inductive FileProblem where
  | notFound
  /-- The path leads through a file. -/
  | notFolder
  | isFolder
  | nameTooLong
  /-- The path has a null character, and no file can be named so. -/
  | badPath
  | notText
deriving DecidableEq, Repr

def FileProblem.message : FileProblem → String
  | notFound => "No such file or directory (os error 2)"
  | notFolder => "Not a directory (os error 20)"
  | isFolder => "Is a directory (os error 21)"
  | nameTooLong => "File name too long (os error 36)"
  | badPath => "file name contained an unexpected NUL byte"
  | notText => "stream did not contain valid UTF-8"

/-- The names along a path, with the empty ones. -/
def pathNames (path : String) : List String := (Text.splitOn '/' path.toList).map String.ofList

namespace FileTree

/-- The most bytes in the name of a file. -/
def maxName : Nat := 255

def ofText (s : String) : FileTree := .file s.toUTF8

def items : FileTree → List (String × FileTree)
  | .file _ => []
  | .folder items => items

/-- What the path leads to from here. The folders above are those that two points lead back to. -/
def follow (above : List FileTree) (here : FileTree) : List String → Except FileProblem FileTree
  | [] => .ok here
  | name :: rest =>
    match here with
    | .file _ => .error .notFolder
    | .folder items =>
      if name = "" ∨ name = "." then follow above here rest
      else if name = ".." then
        match above with
        | [] => .error .notFound
        | t :: above => follow above t rest
      else if maxName < name.utf8ByteSize then .error .nameTooLong
      else
        match Members.get? name items with
        | none => .error .notFound
        | some t => follow (here :: above) t rest

/-- What a path leads to. Paths from the root of all files lead nowhere, and neither does the empty path. -/
def find (t : FileTree) (path : String) : Except FileProblem FileTree :=
  if path.toList.contains '\x00' then .error .badPath
  else if path = "" ∨ path.toList.head? = some '/' then .error .notFound
  else t.follow [] (pathNames path)

/-- The text of a file. -/
def text : FileTree → Except FileProblem String
  | .file content =>
    match String.fromUTF8? content with
    | some s => .ok s
    | none => .error .notText
  | .folder _ => .error .isFolder

def put (content : ByteArray) : List String → FileTree → FileTree
  | [], _ => .file content
  | name :: rest, t =>
    .folder (Members.insert name (put content rest ((Members.get? name t.items).getD (.folder []))) t.items)

/-- The tree with a file at a path, in folders that are made where they are missing. -/
def place (path : String) (content : ByteArray) (t : FileTree) : FileTree :=
  put content ((pathNames path).filter fun name => name ≠ "" && name ≠ ".") t

theorem text_ofText (s : String) : (ofText s).text = .ok s := by
  simp [ofText, text, String.fromUTF8?, String.toUTF8, s.isValidUTF8, String.fromUTF8]

end FileTree

end Questionnaire
