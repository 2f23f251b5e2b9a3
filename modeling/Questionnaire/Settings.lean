import Questionnaire.Failure
import Questionnaire.Text.Blank
import Questionnaire.Web.Address

/-!
# Settings

Where a session keeps its answers, where it sends them, and how long it waits before it writes. Settings come
from named variables of the environment; a blank one counts as missing.
-/

namespace Questionnaire

structure Settings where
  storeDir : Option String := none
  submitUrl : Option Web.Address := none
  submitToken : Option String := none
  /-- How long a write to the cache waits for a newer one, in milliseconds. -/
  debounce : Nat := 300
deriving DecidableEq, Repr

namespace Settings

/-- A natural number of 64 bits, perhaps with a plus sign. -/
def milliseconds? (s : String) : Option Nat :=
  let digits :=
    match s.toList with
    | '+' :: rest => rest
    | cs => cs
  if digits.isEmpty || !digits.all Char.isDigit then none
  else
    let n := digits.foldl (fun n c => n * 10 + (c.toNat - '0'.toNat)) 0
    if n < Nat.pow 2 64 then some n else none

/-- The address to send answers to. -/
def submitAddress (text : String) : Except Failure Web.Address :=
  match Web.Address.ofText text with
  | .error e => .error (.config ("Invalid submit URL '" ++ text ++ "': " ++ e.message))
  | .ok a =>
    if a.scheme == "http" || a.scheme == "https" then .ok a
    else .error (.config ("Submit URL must use http or https, got '" ++ a.scheme ++ "'"))

def waitingTime (text : String) : Except Failure Nat :=
  match milliseconds? (Text.trim text) with
  | some n => .ok n
  | none => .error (.config ("STEPFLOW_DEBOUNCE_MS must be an integer, got '" ++ text ++ "'"))

/-- The settings that an environment gives. -/
def ofEnvironment (lookup : String → Option String) : Except Failure Settings := do
  let get (key : String) : Option String := (lookup key).filter fun v => !Text.isBlankText v
  let submitUrl ← (get "STEPFLOW_SUBMIT_URL").mapM submitAddress
  let debounce ← (get "STEPFLOW_DEBOUNCE_MS").mapM waitingTime
  return {
    storeDir := get "STEPFLOW_STORE_DIR"
    submitUrl := submitUrl
    submitToken := get "STEPFLOW_SUBMIT_TOKEN"
    debounce := debounce.getD 300 }

end Settings

end Questionnaire
