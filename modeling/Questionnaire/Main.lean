import Questionnaire.CommandLine

/-!
# The program

Reads the files that a run may ask for, runs it, prints its report, and removes what the run has removed from its
store.
-/

namespace Questionnaire.CommandLine

/-- The variables that settings come from. -/
def variableNames : List String :=
  ["STEPFLOW_STORE_DIR", "STEPFLOW_SUBMIT_URL", "STEPFLOW_SUBMIT_TOKEN", "STEPFLOW_DEBOUNCE_MS"]

/-- The files that a command names. -/
def paths (arguments : List String) : List String :=
  match Arguments.read arguments with
  | .command (.check file) => [file]
  | .command (.simulate file answers) => [file, answers]
  | _ => []

def readFile (path : String) : IO (Except FileProblem FileTree) := do
  try return .ok (.file (← IO.FS.readBinFile path)) catch _ => return .error .notFound

/-- A folder with the files in it. -/
def readFolder (path : String) : IO (Except FileProblem FileTree) := do
  try
    let entries ← ((← IO.currentDir) / path).readDir
    let mut items := []
    for entry in entries do
      try
        items := (entry.fileName, FileTree.file (← IO.FS.readBinFile entry.path)) :: items
      catch _ => items := (entry.fileName, .folder []) :: items
    return .ok (.folder items)
  catch _ => return .error .notFound

/-- What was read, by path. -/
def lookUp (read : List (String × Except FileProblem FileTree)) (path : String) : Except FileProblem FileTree :=
  (Members.get? path read).getD (.error .notFound)

/-- The files of the store that are there no more. -/
def removed (before after : FileStore) : List String := before.names.filter fun name => !after.names.contains name

def runHere (arguments : List String) : IO UInt32 := do
  let mut given : Environment := ∅
  for name in variableNames do
    if let some v ← IO.getEnv name then given := given.insert name v
  let mut read := []
  for path in ".env" :: paths arguments do
    read := (path, ← readFile path) :: read
  let folder := (environment (lookUp read) given).get? "STEPFLOW_STORE_DIR"
  if let some dir := folder then read := (dir, ← readFolder dir) :: read
  let report := run arguments given (lookUp read)
  for line in report.output do
    IO.println line.render
  if let some complaint := report.complaint then IO.eprintln complaint
  match folder, report.store with
  | some dir, some store =>
    for name in removed (storeAt (lookUp read) dir) store do
      IO.FS.removeFile ((← IO.currentDir) / dir / name)
  | _, _ => pure ()
  return report.exit.toUInt32

end Questionnaire.CommandLine

def main (arguments : List String) : IO UInt32 := Questionnaire.CommandLine.runHere arguments
