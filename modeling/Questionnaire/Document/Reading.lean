import Questionnaire.Document
import Questionnaire.Reading
import Questionnaire.Draft.JsonText

/-!
# Reading documents

What a document may look like: every record as an object or as a list of its fields, `steps` and `stepId` beside
`pages` and `pageId`, defaults for what is missing. Parts that only matter when a rule runs are read leniently:
what does not fit is dropped, or kept as a malformed condition.
-/

namespace Questionnaire

open Draft

namespace Reading

variable {α σ : Type}

/-- A field of a record that is being filled in. -/
def field (names : List String) (get : σ → Option α) (set : σ → α → σ) (read : Draft → Except ReadError α)
    (optional : Bool := true) : RecordField σ where
  names := names
  filled s := (get s).isSome
  read d s := (set s) <$> read d
  optional := optional

/-! ### Variables -/

def variableValue (d : Draft) : Except ReadError VariableValue :=
  match d with
  | .int n => .ok (.number (Number.ofInt n))
  | .float x => .ok (.number x)
  | .text s => .ok (.text s)
  | .word ⟨_, some (.int n), _, _⟩ => .ok (.number (Number.ofInt n))
  | .word ⟨_, some (.float x), _, _⟩ => .ok (.number x)
  | .word ⟨_, some (.text s), _, _⟩ => .ok (.text s)
  | d => do
    let _ ← readAny d
    throw (.noAlternative "VarValue")

def vars : Draft → Except ReadError Variables := readEntries variableValue

def answers : Draft → Except ReadError Answers := readEntries readAny

/-! ### Rules -/

def referenceKind (name : String) : Except ReadError ReferenceKind :=
  .ok (match name with
    | "page" => .page
    | "block" => .block
    | "variable" => .variable
    | _ => .unknown)

structure ReferenceParts where
  kind : Option ReferenceKind := none
  id : Option String := none

def reference (origin : Origin) (d : Draft) : Except ReadError Reference := do
  let parts ← readRecord origin
    ⟨"struct Reference",
      [field ["type"] ReferenceParts.kind (fun p k => { p with kind := some k }) (readChoice origin referenceKind) false,
       field ["value"] ReferenceParts.id (fun p i => { p with id := some i }) readText false]⟩ {} d
  return ⟨← required "type" parts.kind, ← required "value" parts.id⟩

/-- The right side of an arithmetic action. -/
def actionValue? (raw : Json) : Option ActionValue :=
  match raw.typed? with
  | some ("constant", v) => some (.constant v)
  | some ("variable", .text name) => some (.variable name)
  | _ => none

/-- A value that is dropped where it does not fit. -/
def lenient (read? : Json → Option α) (d : Draft) : Except ReadError (Option α) := do
  let raw ← readOption readAny d
  return raw.bind read?

def reference? (raw : Json) : Option Reference := (reference .value (Draft.ofJson raw)).toOption

structure DetailsParts where
  jump : Option (Option Reference) := none
  target : Option (Option Reference) := none
  value : Option (Option ActionValue) := none

def actionDetails (origin : Origin) (d : Draft) : Except ReadError ActionDetails := do
  let parts ← readRecord origin
    ⟨"struct ActionDetails",
      [field ["to"] DetailsParts.jump (fun p r => { p with jump := some r }) (lenient reference?),
       field ["target"] DetailsParts.target (fun p r => { p with target := some r }) (lenient reference?),
       field ["value"] DetailsParts.value (fun p v => { p with value := some v }) (lenient actionValue?)]⟩ {} d
  return ⟨parts.jump.join, parts.target.join, parts.value.join⟩

def actionKind (name : String) : Except ReadError ActionKind :=
  .ok (match name with
    | "jump" => .jump
    | "hide" => .hide
    | "add" => .add
    | "subtract" => .subtract
    | "multiply" => .multiply
    | "divide" => .divide
    | "set" => .set
    | _ => .unknown)

def condition (d : Draft) : Except ReadError Condition := Condition.ofJson <$> readAny d

structure ActionParts where
  kind : Option ActionKind := none
  condition : Option Condition := none
  details : Option ActionDetails := none

/-- An action without a condition never fires. -/
def action (origin : Origin) (d : Draft) : Except ReadError Action := do
  let parts ← readRecord origin
    ⟨"struct Action",
      [field ["type"] ActionParts.kind (fun p k => { p with kind := some k }) (readChoice origin actionKind),
       field ["condition"] ActionParts.condition (fun p c => { p with condition := some c }) condition,
       field ["details"] ActionParts.details (fun p a => { p with details := some a }) (actionDetails origin)]⟩ {} d
  return ⟨parts.kind.getD .unknown, parts.condition.getD (.malformed .null), parts.details.getD {}⟩

structure RuleParts where
  pageId : Option String := none
  actions : Option (List Action) := none

def rule (origin : Origin) (d : Draft) : Except ReadError Rule := do
  let parts ← readRecord origin
    ⟨"struct Rule",
      [field ["pageId", "stepId"] RuleParts.pageId (fun p i => { p with pageId := some i }) readText false,
       field ["actions"] RuleParts.actions (fun p a => { p with actions := some a }) (readList (action origin))]⟩ {} d
  return ⟨← required "pageId" parts.pageId, parts.actions.getD []⟩

/-! ### Pages -/

/-- The validations that a map declares. -/
def validations (d : Draft) : Except ReadError (List Validation) := do
  let raw ← readOption (readEntries readAny) d
  return (raw.getD ∅).toList.filterMap fun (key, v) => Validation.ofMember? key v

structure BlockParts where
  id : Option String := none
  kind : Option BlockKind := none
  properties : Option (Entries Json) := none
  validations : Option (List Validation) := none

def block (origin : Origin) (d : Draft) : Except ReadError Block := do
  let parts ← readRecord origin
    ⟨"struct Block",
      [field ["id"] BlockParts.id (fun p i => { p with id := some i }) readText false,
       field ["type"] BlockParts.kind (fun p k => { p with kind := some k })
        (readChoice origin fun name => .ok (BlockKind.ofName name)) false,
       field ["properties"] BlockParts.properties (fun p m => { p with properties := some m }) (readEntries readAny),
       field ["validations"] BlockParts.validations (fun p v => { p with validations := some v }) validations]⟩ {} d
  return ⟨← required "id" parts.id, ← required "type" parts.kind, parts.properties.getD ∅, parts.validations.getD []⟩

structure PropertyParts where
  buttonText : Option String := none
  redirectUrl : Option (Option String) := none

/-- The text of the button and the address that the page leads to. -/
def pageProperties (origin : Origin) (d : Draft) : Except ReadError (String × Option String) := do
  let parts ← readRecord origin
    ⟨"struct PageProperties",
      [field ["buttonText"] PropertyParts.buttonText (fun p s => { p with buttonText := some s }) readText,
       field ["redirectUrl"] PropertyParts.redirectUrl (fun p u => { p with redirectUrl := some u })
        (readOption readText)]⟩ {} d
  return (parts.buttonText.getD "Continue", parts.redirectUrl.join)

structure PageParts where
  id : Option String := none
  name : Option String := none
  blocks : Option (List Block) := none
  properties : Option (String × Option String) := none

def page (origin : Origin) (d : Draft) : Except ReadError Page := do
  let parts ← readRecord origin
    ⟨"struct Page",
      [field ["id"] PageParts.id (fun p i => { p with id := some i }) readText false,
       field ["name"] PageParts.name (fun p n => { p with name := some n }) readText,
       field ["blocks"] PageParts.blocks (fun p b => { p with blocks := some b }) (readList (block origin)),
       field ["properties"] PageParts.properties (fun p q => { p with properties := some q })
        (pageProperties origin)]⟩ {} d
  let (buttonText, redirectUrl) := parts.properties.getD ("Continue", none)
  return ⟨← required "id" parts.id, parts.name.getD "", parts.blocks.getD [], buttonText, redirectUrl⟩

def documentKind (name : String) : Except ReadError DocumentKind :=
  match DocumentKind.ofName? name with
  | some k => .ok k
  | none => .error (.unknownChoice name (DocumentKind.all.map DocumentKind.name))

structure DocumentParts where
  id : Option String := none
  kind : Option DocumentKind := none
  pages : Option (List Page) := none
  rules : Option (List Rule) := none
  vars : Option Variables := none

def document (origin : Origin) (d : Draft) : Except ReadError Document := do
  let parts ← readRecord origin
    ⟨"struct Document",
      [field ["id"] DocumentParts.id (fun p i => { p with id := some i }) readText,
       field ["kind", "doctype"] DocumentParts.kind (fun p k => { p with kind := some k })
        (readChoice origin documentKind),
       field ["pages", "steps"] DocumentParts.pages (fun p s => { p with pages := some s })
        (readList (page origin)) false,
       field ["rules"] DocumentParts.rules (fun p r => { p with rules := some r }) (readList (rule origin)),
       field ["variables"] DocumentParts.vars (fun p v => { p with vars := some v }) vars]⟩ {} d
  return {
    id := parts.id.getD ""
    kind := parts.kind.getD .funnel
    pages := ← required "pages" parts.pages
    rules := parts.rules.getD []
    vars := parts.vars.getD ∅ }

end Reading

/-- A Json text read as a whole: after the value there may only be blanks. -/
def Draft.readJsonText {α : Type} (read : Draft → Except ReadError α) (s : String) : Except ReadError α := do
  let (d, ended) := Draft.ofJsonText s
  let a ← read d
  if ended then return a else throw .malformed

namespace Document

/-- The document that a value is. -/
def ofJson (v : Json) : Except ReadError Document := Reading.document .value (Draft.ofJson v)

/-- The document that a Json text writes. -/
def ofJsonText (s : String) : Except ReadError Document := Draft.readJsonText (Reading.document .json) s

end Document

end Questionnaire
