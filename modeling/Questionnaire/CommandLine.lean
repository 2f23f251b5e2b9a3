import Questionnaire.Checker
import Questionnaire.CommandLine.Arguments
import Questionnaire.CommandLine.Environment
import Questionnaire.Files.Loading
import Questionnaire.Files.Store
import Questionnaire.Grammars.Builtin
import Questionnaire.Session.Timeline
import Questionnaire.Settings

/-!
# The command line

What the program does with its arguments, its environment and the files around it: `CommandLine.run` is the report
of a run, with the lines that it prints and the store as it leaves it.
-/

namespace Questionnaire

attribute [instance] Grammars.builtin

/-- A piece of what is printed. -/
inductive Line where
  | text (s : String)
  /-- All answers, over as many lines as they take. -/
  | answers (a : Answers)
  | vars (v : Variables)

namespace Line

def render : Line → String
  | text s => s
  | answers a => (Json.object a.toList).pretty
  | vars v => "Variables: " ++ v.toJson.compact

def page (p : PageRef) : Line := .text ("-> page " ++ toString p.index ++ " '" ++ p.id ++ "' (" ++ p.name ++ ")")

def completed (c : Completion) : Line :=
  .text ("   completed '" ++ c.page.id ++ "' with " ++ toString c.answers.size ++ " answer(s)")

def complaint (block : String) (c : Complaint) : Line := .text ("   " ++ block ++ ": " ++ c.message)

def finished (redirect : Option String) : Line :=
  match redirect with
  | some url => .text ("Finished, redirecting to " ++ url)
  | none => .text "Finished"

/-- What an event is reported as. -/
def ofEvent : Event → List Line
  | .completed c => [completed c]
  | .changed p => [page p]
  | .finished a redirect _ => [finished redirect, .answers a]
  | .reentered _ => []

/-- The complaints about a page, by the ids of its blocks in order. -/
def ofComplaints (c : Complaints) : List Line :=
  (c.toList.mergeSort fun a b => decide (a.1 ≤ b.1)).map fun (block, c) => complaint block c

end Line

namespace CommandLine

/-- The outcome of a run. -/
structure Report where
  /-- Zero where all went well, one after a failure, two where the arguments make no sense. -/
  exit : Nat
  output : List Line := []
  /-- The first line of what a failed run complains of. -/
  complaint : Option String := none
  /-- The store, if the run used one. -/
  store : Option FileStore := none

def failed (message : String) (output : List Line := []) : Report :=
  { exit := 1, output := output, complaint := some ("Error: " ++ message) }

/-- What the program calls itself. -/
def version : String := "stepflow-rs 0.1.0"

/-- A session goes on from page to page with the answers of a script, to the end of the session or the script. -/
def play (setup : Setup) : List Answers → Run → Run × List Line
  | [], r => (r, [])
  | submitted :: script, r =>
    let r' := r.perform setup [.next submitted]
    let lines := (r'.events.drop r.events.length).flatMap Line.ofEvent
    match r'.results r.calls.length with
    | [some (.invalid c)] =>
      let (last, more) := play setup script r'
      (last, lines ++ Line.ofComplaints c ++ more)
    | [some (.redirected _)] | [some .completed] => (r', lines)
    | _ =>
      let (last, more) := play setup script r'
      (last, lines ++ more)

/-- The store in the folder at a path. -/
def storeAt (find : String → Except FileProblem FileTree) (path : String) : FileStore :=
  match find path with
  | .ok (.folder items) => { made := true, items := items }
  | _ => {}

/-- A session on a document by a script. The session takes no time, so that nothing is written to its
store, but at its end the answers are removed. Nobody is there to submit answers to. -/
def simulate (find : String → Except FileProblem FileTree) (settings : Settings) (d : Document)
    (script : List Answers) : Report :=
  let setup : Setup := {
    document := d
    sink := settings.submitUrl.map fun _ => { accepts := fun _ => false }
    window := settings.debounce }
  let store := settings.storeDir.map (storeAt find)
  let cached := (store.map fun s => s.cached d.cacheKey).getD ∅
  let (r, lines) := play setup script (Run.start setup cached ∅)
  let ended := r.session.phase.isTerminal
  { exit := 0
    output := lines
      ++ (if ended then [] else [.text ("Answers ran out on page " ++ toString r.session.index)])
      ++ [.vars r.session.vars]
    store := store.map fun s => if ended then (s.clear d.cacheKey).1 else s }

/-- The defects of a document, each on a line. -/
def check (file : String) (d : Document) : Report :=
  match d.defects with
  | [] => { exit := 0, output := [.text (file ++ ": ok (" ++ toString d.pageCount ++ " pages)")] }
  | defects =>
    failed (toString defects.length ++ " defect(s) found")
      (defects.map fun defect => .text (file ++ ": " ++ defect.message))

/-- What follows if a file can be loaded. -/
def loading {α : Type} (path : String) (loaded : Except Failure α) (next : α → Report) : Report :=
  match loaded with
  | .ok a => next a
  | .error _ => failed ("loading " ++ path)

/-- The environment, extended by the file of variables that are missing. -/
def environment (find : String → Except FileProblem FileTree) (env : Environment) : Environment :=
  match (find ".env").bind FileTree.text with
  | .ok s => env.extendByLines (Text.splitOn '\n' s.toList)
  | .error _ => env

/-- A run of the program among the files that paths lead to. -/
def run (arguments : List String) (env : Environment) (find : String → Except FileProblem FileTree) : Report :=
  match Arguments.read arguments with
  | .misuse => { exit := 2 }
  | .help => { exit := 0 }
  | .version => { exit := 0, output := [.text version] }
  | .command (.check file) => loading file (loadDocument find file) (check file)
  | .command (.simulate file answers) =>
    loading file (loadDocument find file) fun d =>
      loading answers (loadScript find answers) fun script =>
        match Settings.ofEnvironment (environment find env).get? with
        | .ok settings => simulate find settings d script
        | .error f => failed f.message

end CommandLine

end Questionnaire
