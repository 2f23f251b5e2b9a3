/-!
# Arguments of the command line

`Arguments.read` says what the words of a command line ask for. Options belong to the command before them; each
has a long and a short name, takes one value and is given exactly once.
-/

namespace Questionnaire

inductive Command where
  /-- Look for defects of a document. -/
  | check (file : String)
  /-- Run a session on a document with answers from a script. -/
  | simulate (file answers : String)
deriving DecidableEq, Repr

/-- What a command line asks for. -/
inductive Arguments where
  | command (c : Command)
  | help
  | version
  /-- The words make no sense. -/
  | misuse
deriving DecidableEq, Repr

namespace Arguments

inductive Verb where
  | check | simulate
deriving DecidableEq, Repr

inductive Setting where
  | file | answers
deriving DecidableEq, Repr

/-- The options given so far. -/
structure Given where
  file : Option String := none
  answers : Option String := none

namespace Verb

def takes : Verb → List Setting
  | check => [.file]
  | simulate => [.file, .answers]

/-- The command, if all its options are given. -/
def command? (v : Verb) (g : Given) : Option Command :=
  match v with
  | check => g.file.map .check
  | simulate => do return .simulate (← g.file) (← g.answers)

end Verb

namespace Setting

def longName : Setting → String
  | file => "file"
  | answers => "answers"

def shortName : Setting → Char
  | file => 'f'
  | answers => 'a'

/-- The option given, unless it has been given before. -/
def give? (o : Setting) (value : String) (g : Given) : Option Given :=
  match o with
  | file => if g.file.isNone then some { g with file := some value } else none
  | answers => if g.answers.isNone then some { g with answers := some value } else none

end Setting

/-- The word can be a value of its own: it does not look like an option. -/
def isValue (word : String) : Bool :=
  match word.toList with
  | '-' :: _ :: _ => false
  | _ => true

/-- What one word of a command is. -/
inductive Word where
  | option (o : Setting) (value : Option String)
  | help
  /-- Nothing but values may follow. -/
  | stop
  | unknown

/-- A word by its letters. The value of a long name comes after an equals sign, that of a short one right behind. -/
def Word.ofText (v : Verb) (word : String) : Word :=
  match word.toList with
  | ['-', '-'] => .stop
  | '-' :: '-' :: letters =>
    let name := String.ofList (letters.takeWhile (· != '='))
    let value := (letters.dropWhile (· != '=')).tail?.map String.ofList
    if name = "help" then if value.isSome then .unknown else .help
    else
      match v.takes.find? fun o => o.longName == name with
      | some o => .option o value
      | none => .unknown
  | '-' :: 'h' :: _ => .help
  | '-' :: letter :: rest =>
    match v.takes.find? fun o => o.shortName == letter with
    | some o =>
      match rest with
      | [] => .option o none
      | '=' :: value => .option o (some (String.ofList value))
      | value => .option o (some (String.ofList value))
    | none => .unknown
  | _ => .unknown

/-- The words after a command. -/
def options (v : Verb) : List String → Given → Arguments
  | [], g => ((v.command? g).map command).getD misuse
  | word :: rest, g =>
    match Word.ofText v word with
    | .help => help
    | .unknown => misuse
    | .stop => if rest.isEmpty then ((v.command? g).map command).getD misuse else misuse
    | .option o (some value) =>
      match o.give? value g with
      | some g => options v rest g
      | none => misuse
    | .option o none =>
      match rest with
      | [] => misuse
      | value :: rest =>
        if isValue value then
          match o.give? value g with
          | some g => options v rest g
          | none => misuse
        else misuse

/-- What the words of a command line ask for. -/
def read : List String → Arguments
  | [] => misuse
  | "check" :: rest => options .check rest {}
  | "simulate" :: rest => options .simulate rest {}
  | "help" :: rest => if rest = [] ∨ rest ∈ [["check"], ["simulate"], ["help"]] then help else misuse
  | word :: _ =>
    if word = "--help" ∨ word.startsWith "-h" then help
    else if word = "--version" ∨ word.startsWith "-V" then version
    else misuse

end Arguments

end Questionnaire
