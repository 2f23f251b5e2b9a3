import Questionnaire.Rule

/-!
# Documents

A document is a sequence of pages with rules between them: a form, a funnel or a quiz. A page is a list of blocks;
blocks that take input may carry validations.
-/

namespace Questionnaire

inductive BlockKind where
  | textInput | multipleChoice | pictureChoice | dropdown | slider | heading | paragraph | gauge | statCards
  | list | image | loader | progress | spacer | html
  /-- A kind that is not known; it is shown and otherwise inert. -/
  | unknown
deriving DecidableEq, Repr

namespace BlockKind

def known : List BlockKind :=
  [textInput, multipleChoice, pictureChoice, dropdown, slider, heading, paragraph, gauge, statCards, list, image,
   loader, progress, spacer, html]

def name : BlockKind → String
  | textInput => "text_input"
  | multipleChoice => "multiple_choice"
  | pictureChoice => "picture_choice"
  | dropdown => "dropdown"
  | slider => "slider"
  | heading => "heading"
  | paragraph => "paragraph"
  | gauge => "gauge"
  | statCards => "stat_cards"
  | list => "list"
  | image => "image"
  | loader => "loader"
  | progress => "progress"
  | spacer => "spacer"
  | html => "html"
  | unknown => "unknown"

def ofName (s : String) : BlockKind := (known.find? fun k => k.name == s).getD unknown

/-- Kinds that record an answer. -/
def acceptsInput : BlockKind → Bool
  | textInput | multipleChoice | pictureChoice | dropdown | slider => true
  | _ => false

/-- Kinds whose answer is a deliberate pick that can end the page. -/
def isAnswerable : BlockKind → Bool
  | textInput | multipleChoice | dropdown | pictureChoice => true
  | _ => false

end BlockKind

/-- A condition that an answer has to meet. -/
inductive Validation where
  | required
  | minLength (n : Nat)
  | maxLength (n : Nat)
  | minChoices (n : Nat)
  | maxChoices (n : Nat)
  | min (x : Float)
  | max (x : Float)
  | pattern (source : String)

namespace Validation

def key : Validation → String
  | required => "required"
  | minLength _ => "minLength"
  | maxLength _ => "maxLength"
  | minChoices _ => "minChoices"
  | maxChoices _ => "maxChoices"
  | min _ => "min"
  | max _ => "max"
  | pattern _ => "pattern"

/-- What is written beside the key. -/
def parameter : Validation → Json
  | required => .bool true
  | minLength n | maxLength n | minChoices n | maxChoices n => .int n
  | min x | max x => Json.ofFloat x
  | pattern source => .text source

/-- The largest count. -/
def maxCount : Nat := Nat.pow 2 64 - 1

/-- A count: a number that is not negative, without its fraction. -/
def count? (v : Json) : Option Nat :=
  (v.number?.filter fun x => 0.0 ≤ x).map fun x => Nat.min (Number.truncate x) maxCount

/-- The validation of a key with its parameter. What is switched off, unknown or unusable is none. -/
def ofMember? (key : String) (v : Json) : Option Validation :=
  match v with
  | .null | .bool false => none
  | v =>
    match key with
    | "required" => some required
    | "minLength" => (count? v).map minLength
    | "maxLength" => (count? v).map maxLength
    | "minChoices" => (count? v).map minChoices
    | "maxChoices" => (count? v).map maxChoices
    | "min" => v.number?.map min
    | "max" => v.number?.map max
    | "pattern" => v.text?.map pattern
    | _ => none

end Validation

/-- A question, or something to be seen, on a page. -/
structure Block where
  id : String
  kind : BlockKind
  properties : Entries Json := ∅
  /-- In the order in which they are declared. -/
  validations : List Validation := []

/-- A choice block that takes several picks. -/
def Block.isMultiple (b : Block) : Bool := ((b.properties.get? "multiple").bind Json.bool?).getD false

structure Page where
  id : String
  name : String := ""
  blocks : List Block := []
  buttonText : String := "Continue"
  redirectUrl : Option String := none

/-- Where the page leads out of the document; a blank address leads nowhere. -/
def Page.redirect? (p : Page) : Option String := (p.redirectUrl.map Text.trim).filter fun url => !url.isEmpty

inductive DocumentKind where
  | form | funnel | quiz
deriving DecidableEq, Repr

namespace DocumentKind

def all : List DocumentKind := [form, funnel, quiz]

def name : DocumentKind → String
  | form => "form"
  | funnel => "funnel"
  | quiz => "quiz"

def ofName? (s : String) : Option DocumentKind := all.find? fun k => k.name == s

end DocumentKind

structure Document where
  id : String := ""
  kind : DocumentKind := .funnel
  pages : List Page
  rules : List Rule := []
  /-- What the variables of a session hold at its start. -/
  vars : Variables := ∅

namespace Document

def pageCount (d : Document) : Nat := d.pages.length

/-- The place of the first page with that id. -/
def pageIndex? (d : Document) (id : String) : Option Nat := d.pages.findIdx? fun p => p.id == id

/-- The rule of a page: the first one where several claim the page. -/
def ruleFor? (d : Document) (pageId : String) : Option Rule := d.rules.find? fun r => r.pageId == pageId

def block? (d : Document) (id : String) : Option Block := (d.pages.flatMap Page.blocks).find? fun b => b.id == id

/-- The key under which the answers of a session are cached. -/
def cacheKey (d : Document) : String := d.kind.name ++ "-" ++ d.id ++ "-values"

end Document

end Questionnaire
