import Questionnaire.Document
import Questionnaire.Failure
import Questionnaire.Grammars

/-!
# Checking documents

`defects` lists every defect of a document: first those of its pages and blocks, in page order, then those of its
rules. What has been seen before is carried along, so that a repeated id is reported where it comes again.
-/

namespace Questionnaire

variable [Grammars]

namespace Checker

/-- A list of defects that holds one if the test says so. -/
def reportIf (bad : Bool) (d : Defect) : List Defect := if bad then [d] else []

/-- What a page leads to is no address. -/
def hasBadRedirect (p : Page) : Bool :=
  match p.redirect? with
  | some url => !Grammars.isAddress url
  | none => false

/-- What is said of the patterns of a block that cannot be read. -/
def badPatterns (b : Block) : List String :=
  b.validations.filterMap fun v =>
    match v with
    | .pattern source =>
      match Grammars.compile source with
      | .ok _ => none
      | .error message => some message
    | _ => none

/-- The defects of a block, given the ids of the blocks before it. -/
def blockDefects (page : Page) (seen : List String) (b : Block) : List Defect :=
  reportIf (seen.contains b.id) (.duplicateBlock b.id page.id)
    ++ reportIf (!b.validations.isEmpty && !b.kind.acceptsInput) (.validationsWithoutInput b.id)
    ++ (badPatterns b).map (.invalidPattern b.id)

/-- The defects of blocks in a row, given the ids of those before them. -/
def blocksDefects (page : Page) : List String → List Block → List Defect
  | _, [] => []
  | seen, b :: rest => blockDefects page seen b ++ blocksDefects page (b.id :: seen) rest

/-- The defects of a page itself, given the ids of the pages before it. -/
def pageDefects (seen : List String) (p : Page) : List Defect :=
  reportIf (seen.contains p.id) (.duplicatePage p.id)
    ++ reportIf (hasBadRedirect p) (.invalidRedirect p.id (p.redirect?.getD ""))

/-- The defects of pages in a row, given the ids of the pages and of the blocks before them. -/
def pagesDefects : List String → List String → List Page → List Defect
  | _, _, [] => []
  | pages, blocks, p :: rest =>
    pageDefects pages p ++ blocksDefects p blocks p.blocks
      ++ pagesDefects (p.id :: pages) ((p.blocks.map Block.id).reverse ++ blocks) rest

/-- The defects of an action at a place of the rule of a page. -/
def actionDefects (d : Document) (pageId : String) (place : Nat) (a : Action) : List Defect :=
  reportIf a.condition.isMalformed (.malformedCondition pageId place)
    ++ (match a.hideTarget? with
      | some id => reportIf (d.block? id).isNone (.unknownHideTarget pageId id)
      | none => [])
    ++ (match a.jumpTarget? with
      | some id => reportIf (d.pageIndex? id).isNone (.unknownJumpTarget pageId id)
      | none => [])

/-- The defects of a rule, given the pages of the rules before it. -/
def ruleDefects (d : Document) (seen : List String) (r : Rule) : List Defect :=
  reportIf (d.pageIndex? r.pageId).isNone (.danglingRule r.pageId)
    ++ reportIf (seen.contains r.pageId) (.duplicateRule r.pageId)
    ++ r.actions.zipIdx.flatMap fun (a, place) => actionDefects d r.pageId place a

def rulesDefects (d : Document) : List String → List Rule → List Defect
  | _, [] => []
  | seen, r :: rest => ruleDefects d seen r ++ rulesDefects d (r.pageId :: seen) rest

end Checker

/-- Every defect of a document. -/
def Document.defects (d : Document) : List Defect :=
  Checker.reportIf d.pages.isEmpty .empty ++ Checker.pagesDefects [] [] d.pages ++ Checker.rulesDefects d [] d.rules

end Questionnaire
