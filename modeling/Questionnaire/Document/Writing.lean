import Questionnaire.Document

/-!
# Writing documents

Documents and their parts as values, in the form in which they are read.
-/

namespace Questionnaire

/-- The members that there are. -/
def Json.ofMembers (members : List (String × Option Json)) : Json :=
  .object (members.filterMap fun (name, v) => v.map (name, ·))

def ReferenceKind.name : ReferenceKind → String
  | .page => "page"
  | .block => "block"
  | .variable => "variable"
  | .unknown => "unknown"

def Reference.toJson (r : Reference) : Json := .withType r.kind.name (.text r.id)

def ActionKind.name : ActionKind → String
  | .jump => "jump"
  | .hide => "hide"
  | .add => "add"
  | .subtract => "subtract"
  | .multiply => "multiply"
  | .divide => "divide"
  | .set => "set"
  | .unknown => "unknown"

def ActionValue.toJson : ActionValue → Json
  | .constant v => .withType "constant" v
  | .variable name => .withType "variable" (.text name)

def ActionDetails.toJson (d : ActionDetails) : Json :=
  .ofMembers [("to", d.jump.map Reference.toJson), ("target", d.target.map Reference.toJson),
    ("value", d.value.map ActionValue.toJson)]

def Action.toJson (a : Action) : Json :=
  .object [("type", .text a.kind.name), ("condition", a.condition.toJson), ("details", a.details.toJson)]

def Rule.toJson (r : Rule) : Json :=
  .object [("pageId", .text r.pageId), ("actions", .array (r.actions.map Action.toJson))]

/-- The validations as a map; where one kind is declared twice, the later one counts. -/
def validationsToJson (vs : List Validation) : Json :=
  .object (Members.ofList (vs.map fun v => (v.key, v.parameter)))

def Block.toJson (b : Block) : Json :=
  .ofMembers [("id", some (.text b.id)), ("type", some (.text b.kind.name)),
    ("properties", some (.object b.properties.toList)),
    ("validations", if b.validations.isEmpty then none else some (validationsToJson b.validations))]

def Page.toJson (p : Page) : Json :=
  .object [("id", .text p.id), ("name", .text p.name), ("blocks", .array (p.blocks.map Block.toJson)),
    ("properties", .ofMembers [("buttonText", some (.text p.buttonText)), ("redirectUrl", p.redirectUrl.map .text)])]

def Document.toJson (d : Document) : Json :=
  .object [("id", .text d.id), ("kind", .text d.kind.name), ("pages", .array (d.pages.map Page.toJson)),
    ("rules", .array (d.rules.map Rule.toJson)), ("variables", d.vars.toJson)]

end Questionnaire
