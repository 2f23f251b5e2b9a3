import Questionnaire.Draft
import Questionnaire.Json.Printer
import Questionnaire.Text.Quoted

/-!
# Reading drafts

The readers that documents are read with. A reader takes a draft and gives a value or the first problem from the
left. Records are read by `readRecord` from a list of fields: from an object by name, from a list by position.
-/

namespace Questionnaire

/-- What a reader was shown. -/
inductive Found where
  | null
  | bool (b : Bool)
  | int (n : Int)
  | float (x : Float)
  | text (s : String)
  | list
  | table

/-- Why a text is not read. -/
inductive ReadError where
  /-- The text is not well formed. -/
  | malformed
  | wrongType (found : Found) (expected : String)
  | wrongValue (found : Found) (expected : String)
  | wrongLength (length : Nat) (expected : String)
  | missingField (name : String)
  | duplicateField (name : String)
  | unknownChoice (name : String) (choices : List String)
  | noAlternative (type : String)
  /-- A text that is not in the format of its type. -/
  | unreadable

namespace Found

def describe : Found → String
  | .null => "null"
  | .bool b => "boolean `" ++ (if b then "true" else "false") ++ "`"
  | .int n => "integer `" ++ toString n ++ "`"
  | .float x => "floating point `" ++ Number.render Number.json x ++ "`"
  | .text s => "string " ++ Text.quoted s
  | .list => "sequence"
  | .table => "map"

end Found

namespace ReadError

def tick (s : String) : String := "`" ++ s ++ "`"

/-- The choices that there are, in words. -/
def describeChoices : List String → String
  | [] => "there are no variants"
  | [a] => "expected " ++ tick a
  | [a, b] => "expected " ++ tick a ++ " or " ++ tick b
  | names => "expected one of " ++ String.intercalate ", " (names.map tick)

/-- The wording of a problem; a malformed text has none of its own. -/
def message : ReadError → String
  | .malformed => ""
  | .wrongType found expected => "invalid type: " ++ found.describe ++ ", expected " ++ expected
  | .wrongValue found expected => "invalid value: " ++ found.describe ++ ", expected " ++ expected
  | .wrongLength n expected => "invalid length " ++ toString n ++ ", expected " ++ expected
  | .missingField name => "missing field " ++ tick name
  | .duplicateField name => "duplicate field " ++ tick name
  | .unknownChoice name choices => "unknown variant " ++ tick name ++ ", " ++ describeChoices choices
  | .noAlternative type => "data did not match any variant of untagged enum " ++ type
  | .unreadable => ""

end ReadError

namespace Draft

/-- What a value is, if it has a value. -/
def foundJson : Json → Found
  | .null => .null
  | .bool b => .bool b
  | .int n => .int n
  | .float x => .float x
  | .text s => .text s
  | .array _ => .list
  | .object _ => .table

/-- The problem of a draft that is not what was expected. -/
def mismatch (expected : String) : Draft → ReadError
  | .null => .wrongType .null expected
  | .bool b => .wrongType (.bool b) expected
  | .int n => .wrongType (.int n) expected
  | .float x => .wrongType (.float x) expected
  | .text s => .wrongType (.text s) expected
  | .word w => ((w.meaning.map fun v => ReadError.wrongType (foundJson v) expected)).getD .malformed
  | .list _ _ => .wrongType .list expected
  | .table _ _ => .wrongType .table expected
  | .tagged _ _ | .unusable | .broken => .malformed

/-- A text; a word counts with its letters. -/
def readText : Draft → Except ReadError String
  | .text s => .ok s
  | .word w => .ok w.letters
  | .tagged _ (.text s) => .ok s
  | .tagged _ (.word w) => .ok w.letters
  | d => .error (d.mismatch "a string")

mutual

/-- Any value. A name that occurs twice in an object keeps its place and takes the later value. -/
def readAny : Draft → Except ReadError Json
  | .null => .ok .null
  | .bool b => .ok (.bool b)
  | .int n => .ok (.int n)
  | .float x => .ok (.float x)
  | .text s => .ok (.text s)
  | .word w =>
    match w.meaning with
    | some (.float x) => .ok (Json.ofFloat x)
    | some v => .ok v
    | none => .error .malformed
  | .list items whole => do
    let values ← readAnyItems items
    if whole then return .array values else throw .malformed
  | .table members whole => do
    let values ← readAnyMembers members []
    if whole then return .object values else throw .malformed
  | .tagged _ _ | .unusable | .broken => .error .malformed

def readAnyItems : List Draft → Except ReadError (List Json)
  | [] => .ok []
  | d :: rest => do
    let v ← readAny d
    let values ← readAnyItems rest
    return v :: values

def readAnyMembers : List (Draft × Draft) → List (String × Json) → Except ReadError (List (String × Json))
  | [], acc => .ok acc
  | (name, d) :: rest, acc => do
    let name ← readText name
    let v ← readAny d
    readAnyMembers rest (Members.insert name v acc)

end

/-- The draft under its tag, if it has one. -/
def untagged : Draft → Draft
  | .tagged _ inner => inner
  | d => d

variable {α σ : Type}

def readItems (read : Draft → Except ReadError α) : List Draft → Except ReadError (List α)
  | [] => .ok []
  | d :: rest => do
    let a ← read d
    let as ← readItems read rest
    return a :: as

/-- A list of items. -/
def readList (read : Draft → Except ReadError α) (d : Draft) : Except ReadError (List α) :=
  match d.untagged with
  | .list items whole => do
    let as ← readItems read items
    if whole then return as else throw .malformed
  | .word w => if w.isEmpty then .ok [] else .error ((Draft.word w).mismatch "a sequence")
  | d => .error (d.mismatch "a sequence")

def readMembers (read : Draft → Except ReadError α) :
    List (Draft × Draft) → Entries α → Except ReadError (Entries α)
  | [], acc => .ok acc
  | (name, d) :: rest, acc => do
    let name ← readText name
    let a ← read d
    readMembers read rest (acc.insert name a)

/-- A map from names. -/
def readEntries (read : Draft → Except ReadError α) (d : Draft) : Except ReadError (Entries α) :=
  match d.untagged with
  | .table members whole => do
    let m ← readMembers read members ∅
    if whole then return m else throw .malformed
  | .word w => if w.isEmpty then .ok ∅ else .error ((Draft.word w).mismatch "a map")
  | d => .error (d.mismatch "a map")

/-- A part that may be null. -/
def readOption (read : Draft → Except ReadError α) (d : Draft) : Except ReadError (Option α) :=
  match d with
  | .null => .ok none
  | .word w =>
    match w.presence with
    | .absent => .ok none
    | .present => some <$> read d
    | .refused => .error .malformed
  | d => some <$> read d

/-! ### Choices by name -/

/-- Nothing, as it stands beside the name of a choice. -/
def readUnit (d : Draft) : Except ReadError Unit :=
  match d with
  | .null => .ok ()
  | .word w => if w.presence = .absent then .ok () else .error (d.mismatch "unit")
  | d => .error (d.mismatch "unit")

/-- One of several choices, given by its name, or by an object of one member with the name and nothing beside
it; a tag names a choice too. -/
def readChoice (origin : Origin) (choose : String → Except ReadError α) (d : Draft) : Except ReadError α :=
  match d with
  | .text s => choose s
  | .word w => choose w.letters
  | .tagged tag inner => do
    let a ← choose tag
    readUnit inner
    return a
  | .table members whole =>
    match origin, members, whole with
    | .value, [(name, beside)], _ => do
      let a ← choose (← readText name)
      readUnit beside
      return a
    | .value, _, _ => .error (.wrongValue .table "map with a single key")
    | .json, (name, beside) :: rest, whole => do
      let a ← choose (← readText name)
      readUnit beside
      if rest.isEmpty && whole then return a else throw .malformed
    | _, _, _ => .error .malformed
  | d => if origin = .value then .error (d.mismatch "string or map") else .error .malformed

/-! ### Records -/

/-- A field of a record that is read into `σ`, in which it may have been filled already. -/
structure RecordField (σ : Type) where
  /-- The name of the field in problems comes first, other names follow. -/
  names : List String
  filled : σ → Bool
  read : Draft → σ → Except ReadError σ
  /-- A list may end before the field. -/
  optional : Bool := true

/-- The fields of a record, with the words for the record in problems. -/
structure Shape (σ : Type) where
  title : String
  fields : List (RecordField σ)

def Shape.find? (shape : Shape σ) (name : String) : Option (RecordField σ) :=
  shape.fields.find? fun f => f.names.contains name

/-- The members of an object, from left to right. Members that are no field are passed over. -/
def fillByName (shape : Shape σ) : List (Draft × Draft) → σ → Except ReadError σ
  | [], acc => .ok acc
  | (name, d) :: rest, acc => do
    let name ← readText name
    match shape.find? name with
    | none => if d.isIntact then fillByName shape rest acc else throw .malformed
    | some f =>
      if f.filled acc then throw (.duplicateField (f.names.headD name))
      else fillByName shape rest (← f.read d acc)

/-- The items of a list, one for each field. -/
def fillByPosition (shape : Shape σ) (whole : Bool) :
    Nat → List (RecordField σ) → List Draft → σ → Except ReadError (σ × List Draft)
  | _, [], items, acc => .ok (acc, items)
  | position, f :: fields, [], acc =>
    if !whole then .error .malformed
    else if f.optional then fillByPosition shape whole (position + 1) fields [] acc
    else .error (.wrongLength position
      (shape.title ++ " with " ++ toString shape.fields.length ++ " elements"))
  | position, f :: fields, d :: rest, acc => do
    fillByPosition shape whole (position + 1) fields rest (← f.read d acc)

/-- A record, from an object or from a list of its fields. A Yaml text gives no lists for records, but an empty word
for a record with nothing in it. -/
def readRecord (origin : Origin) (shape : Shape σ) (start : σ) (d : Draft) : Except ReadError σ :=
  match d.untagged with
  | .table members whole => do
    let acc ← fillByName shape members start
    if whole then return acc else throw .malformed
  | .word w => if w.isEmpty then .ok start else .error ((Draft.word w).mismatch shape.title)
  | .list items whole => do
    if origin = .yaml then throw ((Draft.list items whole).mismatch shape.title)
    let (acc, rest) ← fillByPosition shape whole 0 shape.fields items start
    if rest.isEmpty then
      if whole then return acc else throw .malformed
    else if origin = .value then throw (.wrongLength items.length "fewer elements in array")
    else throw .malformed
  | d => .error (d.mismatch shape.title)

/-- The value of a field that has to be there. -/
def required (name : String) : Option α → Except ReadError α
  | some a => .ok a
  | none => .error (.missingField name)

end Draft

end Questionnaire
