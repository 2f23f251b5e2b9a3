import Questionnaire.Yaml.Token

/-!
# Nodes

The tree that tokens describe: scalars, lists and tables, with tags and anchors, and aliases that stand for what an
anchor marks. A text has one document at most.

An anchor gets a number: how many names of anchors there are when it is met. A name that is used again is counted
once, so that a number may come up twice; an alias then stands for the node that got its number last.
-/

namespace Questionnaire.Yaml

inductive Node where
  | alias (number : Nat)
  | scalar (tag : Option String) (style : Style) (text : String)
  | list (tag : Option String) (items : List Node)
  | table (tag : Option String) (members : List (Node × Node))
deriving Inhabited

/-- A node with its number. -/
structure Anchored where
  number : Nat
  /-- How many anchors there are before it. -/
  position : Nat
  node : Node

/-- Tokens that are being made into nodes. -/
structure Builder where
  tokens : List Token
  handles : List (String × String) := Tag.defaultHandles
  /-- The number that each name of an anchor stands for now. -/
  names : List (String × Nat) := []
  /-- How many anchors there were. -/
  anchors : Nat := 0
  anchored : List Anchored := []

namespace Builder

/-- Steps that may fail; all failures are alike. -/
abbrev Build := StateT Builder Option

def next : Build Token := do return (← get).tokens.headD .finish

def skip : Build Unit := modify fun b => { b with tokens := b.tokens.drop 1 }

/-- The token is passed over if it is the next one. -/
def skip? (t : Token) : Build Bool := do
  if (← next) = t then
    skip
    return true
  else return false

/-- The token has to be the next one. -/
def expect (t : Token) : Build Unit := do
  if ← skip? t then return else failure

/-- What stands before a node. -/
structure Properties where
  anchor : Option String := none
  tag : Option Tag := none

/-- An anchor and a tag in either order, or one of them. -/
def properties : Build Properties := do
  match ← next with
  | .anchor name =>
    skip
    match ← next with
    | .tag t =>
      skip
      return ⟨some name, some t⟩
    | _ => return ⟨some name, none⟩
  | .tag t =>
    skip
    match ← next with
    | .anchor name =>
      skip
      return ⟨some name, some t⟩
    | _ => return ⟨none, some t⟩
  | _ => return {}

/-- The number of an alias. -/
def numberOf (name : String) : Build Nat := do
  match (← get).names.find? fun n => n.1 == name with
  | some (_, number) => return number
  | none => failure

/-- An anchor is met: its number, and how many were met before it. -/
def enter (name : String) : Build (Nat × Nat) := do
  let b ← get
  let number := b.names.length
  let names := b.names.filter fun n => n.1 != name
  set { b with names := (name, number) :: names, anchors := b.anchors + 1 }
  return (number, b.anchors)

/-- The node that was entered at an anchor is complete. -/
def leave (entered : Option (Nat × Nat)) (node : Node) : Build Node := do
  match entered with
  | some (number, position) =>
    modify fun b => { b with anchored := ⟨number, position, node⟩ :: b.anchored }
    return node
  | none => return node

/-- A text without letters, where a node is left out. -/
def emptyScalar : Node := .scalar none .plain ""

/-- The tokens after which an item or a key or a value is left out in a block. -/
def endsBlockItem (t : Token) : Bool := t = .blockEntry || t = .blockEnd

def endsBlockMember (t : Token) : Bool := t = .key || t = .value || t = .blockEnd

/-- The tag `!` says nothing about a scalar. -/
def scalarTag (tag : Option String) : Option String := tag.filter fun t => t != "!"

mutual

/-- A node. In a block it may be a block; where a table leads to it, it may be a list that is not indented. The
fuel is more than the tokens ahead, counted three times. -/
def node (block indentless : Bool) : Nat → Build Node
  | 0 => failure
  | fuel + 1 => do
    if let .alias name ← next then
      skip
      return .alias (← numberOf name)
    else
      let p ← properties
      let tag ← p.tag.mapM fun t => do (t.name? (← get).handles : Option String)
      match ← next with
      | .scalar text style =>
        skip
        let entered ← p.anchor.mapM enter
        leave entered (.scalar (scalarTag tag) style text)
      | .blockEntry =>
        if indentless then
          let entered ← p.anchor.mapM enter
          leave entered (.list tag (← indentlessItems fuel))
        else leftOut p tag
      | .flowSequenceStart =>
        skip
        let entered ← p.anchor.mapM enter
        leave entered (.list tag (← flowItems true fuel))
      | .flowMappingStart =>
        skip
        let entered ← p.anchor.mapM enter
        leave entered (.table tag (← flowMembers true fuel))
      | .sequenceStart =>
        if block then
          skip
          let entered ← p.anchor.mapM enter
          leave entered (.list tag (← blockItems fuel))
        else leftOut p tag
      | .mappingStart =>
        if block then
          skip
          let entered ← p.anchor.mapM enter
          leave entered (.table tag (← blockMembers fuel))
        else leftOut p tag
      | _ => leftOut p tag
where
  /-- A node of which there is only an anchor or a tag. -/
  leftOut (p : Properties) (tag : Option String) : Build Node := do
    if p.anchor.isNone && tag.isNone then failure
    else
      let entered ← p.anchor.mapM enter
      leave entered (.scalar tag .plain "")

/-- The items of an indented list. -/
def blockItems : Nat → Build (List Node)
  | 0 => failure
  | fuel + 1 => do
    if ← skip? .blockEntry then
      let item ← if endsBlockItem (← next) then pure emptyScalar else node true false fuel
      return item :: (← blockItems fuel)
    else
      expect .blockEnd
      return []

/-- The items of a list that is not indented under its key. -/
def indentlessItems : Nat → Build (List Node)
  | 0 => failure
  | fuel + 1 => do
    if ← skip? .blockEntry then
      let t ← next
      let item ← if endsBlockItem t || endsBlockMember t then pure emptyScalar else node true false fuel
      return item :: (← indentlessItems fuel)
    else return []

/-- The members of an indented table. -/
def blockMembers : Nat → Build (List (Node × Node))
  | 0 => failure
  | fuel + 1 => do
    if ← skip? .key then
      let key ← if endsBlockMember (← next) then pure emptyScalar else node true true fuel
      let value ← blockValue fuel
      return (key, value) :: (← blockMembers fuel)
    else
      expect .blockEnd
      return []

def blockValue : Nat → Build Node
  | 0 => failure
  | fuel + 1 => do
    if ← skip? .value then
      if endsBlockMember (← next) then return emptyScalar else node true true fuel
    else return emptyScalar

/-- The items of a list in brackets. An item may be a single member of a table. -/
def flowItems (first : Bool) : Nat → Build (List Node)
  | 0 => failure
  | fuel + 1 => do
    if ← skip? .flowSequenceEnd then return []
    else
      if !first then expect .flowEntry
      if ← skip? .flowSequenceEnd then return []
      else if ← skip? .key then
        let key ← flowItemKey fuel
        let value ← flowItemValue fuel
        return .table none [(key, value)] :: (← flowItems false fuel)
      else
        let item ← node false false fuel
        return item :: (← flowItems false fuel)

/-- The key of a single member in a list. Where it is left out, the token after it is passed over. -/
def flowItemKey : Nat → Build Node
  | 0 => failure
  | fuel + 1 => do
    let t ← next
    if t = .value || t = .flowEntry || t = .flowSequenceEnd then
      skip
      return emptyScalar
    else node false false fuel

def flowItemValue : Nat → Build Node
  | 0 => failure
  | fuel + 1 => do
    if ← skip? .value then
      let t ← next
      if t = .flowEntry || t = .flowSequenceEnd then return emptyScalar else node false false fuel
    else return emptyScalar

/-- The members of a table in braces. -/
def flowMembers (first : Bool) : Nat → Build (List (Node × Node))
  | 0 => failure
  | fuel + 1 => do
    if ← skip? .flowMappingEnd then return []
    else
      if !first then expect .flowEntry
      if ← skip? .flowMappingEnd then return []
      else if ← skip? .key then
        let t ← next
        let key ←
          if t = .value || t = .flowEntry || t = .flowMappingEnd then pure emptyScalar else node false false fuel
        let value ← flowValue fuel
        return (key, value) :: (← flowMembers false fuel)
      else
        let key ← node false false fuel
        return (key, emptyScalar) :: (← flowMembers false fuel)

def flowValue : Nat → Build Node
  | 0 => failure
  | fuel + 1 => do
    if ← skip? .value then
      let t ← next
      if t = .flowEntry || t = .flowMappingEnd then return emptyScalar else node false false fuel
    else return emptyScalar

end

/-! ### Documents -/

/-- The directives before a document: a version at most once, and each handle at most once. -/
def directives (versioned : Bool) (handles : List (String × String)) :
    List Token → Option (List (String × String) × List Token)
  | .directive (.version major minor) :: rest =>
    if !versioned && major = 1 && (minor = 1 || minor = 2) then directives true handles rest else none
  | .directive (.tag handle expansion) :: rest =>
    if handles.any fun h => h.1 == handle then none
    else directives versioned (handles ++ [(handle, expansion)]) rest
  | tokens => some (handles, tokens)

def isDirective : Token → Bool
  | .directive _ => true
  | _ => false

/-- The root of the only document, if the text has one. -/
def document (fuel : Nat) : Build (Option Node) := do
  let t ← next
  if t = .finish then return none
  else
    if isDirective t || t = .documentStart then
      let (handles, tokens) ← (directives false [] (← get).tokens : Option _)
      modify fun b => { b with handles := handles ++ Tag.defaultHandles, tokens := tokens }
      expect .documentStart
      let t ← next
      if isDirective t || t = .documentStart || t = .documentEnd || t = .finish then
        return some emptyScalar
      else return some (← node true false fuel)
    else return some (← node true false fuel)

end Builder

/-- A document: its root, and what its aliases stand for. -/
structure Tree where
  root : Node
  anchored : List Anchored

namespace Tree

/-- The node that an alias of that number stands for. -/
def target? (t : Tree) (number : Nat) : Option Node :=
  let candidates := t.anchored.filter fun a => a.number == number
  (candidates.foldl (fun (best : Option Anchored) a =>
    match best with
    | some b => if b.position < a.position then some a else some b
    | none => some a) none).map Anchored.node

/-- The document of a text; a text without one is an empty scalar. -/
def ofText? (s : String) : Option Tree := do
  let tokens ← Token.ofText? s
  let (root, b) ← (Builder.document (3 * tokens.length + 3)).run { tokens := tokens }
  if (b.tokens.dropWhile (· = .documentEnd)).head? = some .finish then
    return ⟨root.getD Builder.emptyScalar, b.anchored⟩
  else none

end Tree

end Questionnaire.Yaml
