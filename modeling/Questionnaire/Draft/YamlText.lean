import Questionnaire.Yaml.Node
import Questionnaire.Yaml.Word

/-!
# Drafts of Yaml texts

`Draft.ofYamlText` is the draft of the only document of a Yaml text. What an alias stands for is copied to its
place. Lists and tables that are nested too deeply, and aliases beyond the number of those that may be followed,
have no value.
-/

namespace Questionnaire.Yaml

/-- How deep lists and tables may be nested. -/
def maxDepth : Nat := 128

/-- How many aliases may be followed, for each event of the document: scalars and aliases are one event, lists and
tables two and those of their parts. -/
def aliasesPerEvent : Nat := 100

mutual

def Node.events : Node → Nat
  | .alias _ | .scalar _ _ _ => 1
  | .list _ items => 2 + itemEvents items
  | .table _ members => 2 + memberEvents members

def itemEvents : List Node → Nat
  | [] => 0
  | n :: rest => n.events + itemEvents rest

def memberEvents : List (Node × Node) → Nat
  | [] => 0
  | (key, value) :: rest => key.events + value.events + memberEvents rest

end

/-- The draft under the choice that a tag names. -/
def withTag (tag : Option String) (d : Draft) : Draft :=
  match tag.bind choiceName? with
  | some name => .tagged name d
  | none => d

/-- What a node or the target of an alias is, with one alias less to follow. -/
def Tree.resolve (t : Tree) (n : Node) : StateM Nat (Option Node) :=
  match n with
  | .alias number => do
    let left ← get
    if left = 0 then return none
    else
      set (left - 1)
      return t.target? number
  | n => return some n

/-- The draft of a node under which there is so much depth left. -/
def Tree.draft (t : Tree) : Nat → Node → StateM Nat Draft
  | depth, n => do
    match ← t.resolve n with
    | some (.scalar none style s) => return untaggedWord style s
    | some (.scalar (some tag) style s) => return taggedWord tag style s
    | some (.list tag items) =>
      match depth with
      | 0 => return .unusable
      | depth + 1 => return withTag tag (.list (← items.mapM (t.draft depth)) true)
    | some (.table tag members) =>
      match depth with
      | 0 => return .unusable
      | depth + 1 =>
        let members ← members.mapM fun (key, value) => do
          return (← t.draft depth key, ← t.draft depth value)
        return withTag tag (.table members true)
    | some (.alias _) | none => return .unusable

end Questionnaire.Yaml

namespace Questionnaire.Draft

/-- The draft of a Yaml text, if it is well formed and holds one document at most. -/
def ofYamlText? (s : String) : Option Draft :=
  (Yaml.Tree.ofText? s).map fun t =>
    ((t.draft Yaml.maxDepth t.root).run (t.root.events * Yaml.aliasesPerEvent)).1

end Questionnaire.Draft
