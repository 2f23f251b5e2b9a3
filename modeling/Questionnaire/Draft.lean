import Questionnaire.Json

/-!
# Drafts

A draft is what a reader of documents sees before it decides what each part is: the tree of a text, as far as the
text can be followed. A part that is no part of any well-formed text is `broken`, and everything around it ends
there. Reading a draft from left to right therefore meets the first problem of the text first, whether the
problem is one of form or of meaning.
-/

namespace Questionnaire

/-- Whether a word counts as something where something may be absent. -/
inductive Presence where
  | absent | present
  /-- The word claims to be nothing and is not. -/
  | refused
deriving DecidableEq, Repr

/-- A word whose meaning hangs on what is asked for: where a text is asked for, it is its letters. -/
structure Word where
  letters : String
  /-- What it stands for where any value will do. -/
  meaning : Option Json
  presence : Presence := .present
  /-- It has no letters, and stands for an empty list or an empty table where one is asked for. -/
  isEmpty : Bool := false

inductive Draft where
  | null
  | bool (b : Bool)
  | int (n : Int)
  | float (x : Float)
  | text (s : String)
  | word (w : Word)
  /-- A part with a name tag in front. -/
  | tagged (tag : String) (inner : Draft)
  /-- `whole` is false where the text breaks off after the last item. -/
  | list (items : List Draft) (whole : Bool)
  /-- `whole` is false where the text breaks off after the last member. -/
  | table (members : List (Draft × Draft)) (whole : Bool)
  /-- Well formed, but without a value: it may only be passed over. -/
  | unusable
  /-- The text is not well formed from here on. -/
  | broken
deriving Inhabited

/-- The kind of text that a draft comes from. The kinds differ in how the name of a choice may be given. -/
inductive Origin where
  | json
  | value
  | yaml
deriving DecidableEq, Repr

namespace Draft

mutual

/-- The draft of a value that is already at hand. -/
def ofJson : Json → Draft
  | .null => .null
  | .bool b => .bool b
  | .int n => .int n
  | .float x => .float x
  | .text s => .text s
  | .array items => .list (ofItems items) true
  | .object members => .table (ofMembers members) true

def ofItems : List Json → List Draft
  | [] => []
  | v :: rest => ofJson v :: ofItems rest

def ofMembers : List (String × Json) → List (Draft × Draft)
  | [] => []
  | (name, v) :: rest => (.text name, ofJson v) :: ofMembers rest

end

mutual

/-- The text can be followed to the end of the part. -/
def isIntact : Draft → Bool
  | .broken => false
  | .tagged _ inner => inner.isIntact
  | .list items whole => whole && areIntact items
  | .table members whole => whole && membersIntact members
  | _ => true

def areIntact : List Draft → Bool
  | [] => true
  | d :: rest => d.isIntact && areIntact rest

def membersIntact : List (Draft × Draft) → Bool
  | [] => true
  | (name, d) :: rest => name.isIntact && d.isIntact && membersIntact rest

end

end Draft

end Questionnaire
