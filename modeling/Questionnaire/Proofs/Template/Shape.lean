import Mathlib.Data.List.Infix
import Questionnaire.Proofs.Document.Values
import Questionnaire.Proofs.Template.Tokens

/-!
# The shape of what is resolved

A value is what stands at each of its places: the length of a list, the names of an object in their order, or a text, a
number, a truth value or null. Resolving leaves at every place what stands there, but for the texts. Nothing else fits
this description, so a block comes back unchanged if none of its texts has a token in it.
-/

namespace Questionnaire

namespace Json

/-- What stands at a place of a value, apart from what stands below it. -/
inductive Node where
  | null
  | bool (b : Bool)
  | int (n : Int)
  | float (x : Float)
  | text (s : String)
  | array (length : Nat)
  | object (names : List String)

def node : Json → Node
  | .null => .null
  | .bool b => .bool b
  | .int n => .int n
  | .float x => .float x
  | .text s => .text s
  | .array items => .array items.length
  | .object members => .object (Members.names members)

/-- The item of a list, or the value of the member of an object, that has that number. -/
def child? : Json → Nat → Option Json
  | .array items, i => items[i]?
  | .object members, i => members[i]?.map Prod.snd
  | _, _ => none

/-- The value at a place, which is reached by the numbers of items and members. -/
def at? (v : Json) : List Nat → Option Json
  | [] => some v
  | i :: place => (v.child? i).bind fun w => w.at? place

def nodeAt? (v : Json) (place : List Nat) : Option Node := (v.at? place).map node

section
variable {v w : Json} {i : Nat}

theorem nodeAt?_cons (v : Json) (i : Nat) (place : List Nat) :
    v.nodeAt? (i :: place) = (v.child? i).bind fun w => w.nodeAt? place := by
  rw [nodeAt?, at?, Option.map_bind]
  rfl

theorem node_eq_of_nodeAt? (h : ∀ place, v.nodeAt? place = w.nodeAt? place) : v.node = w.node :=
  Option.some.inj (h [])

theorem child_nodeAt? (h : ∀ place, v.nodeAt? place = w.nodeAt? place) {a b : Json} (ha : v.child? i = some a)
    (hb : w.child? i = some b) (place : List Nat) : a.nodeAt? place = b.nodeAt? place := by
  have hplace := h (i :: place)
  rwa [nodeAt?_cons, nodeAt?_cons, ha, hb] at hplace

theorem sizeOf_child?_lt (h : v.child? i = some w) : sizeOf w < sizeOf v := by
  cases v with
  | array items =>
    have hmem := List.sizeOf_lt_of_mem (List.mem_of_getElem? h)
    rw [array.sizeOf_spec]
    omega
  | object members =>
    obtain ⟨m, hm, rfl⟩ := Option.map_eq_some_iff.mp h
    have hmem := List.sizeOf_lt_of_mem (List.mem_of_getElem? hm)
    obtain ⟨name, w⟩ := m
    rw [Prod.mk.sizeOf_spec] at hmem
    rw [object.sizeOf_spec]
    dsimp only
    omega
  | _ => cases h

/-- A value is what stands at its places. -/
theorem eq_of_nodeAt? : ∀ {v w : Json}, (∀ place, v.nodeAt? place = w.nodeAt? place) → v = w
  | .array xs, w, h => by
    have hnode := node_eq_of_nodeAt? h
    cases w with
    | array ys =>
      refine congrArg array (List.ext_getElem (Node.array.inj hnode) fun i hi hi' => ?_)
      have hx : (array xs).child? i = some xs[i] := List.getElem?_eq_getElem hi
      have hy : (array ys).child? i = some ys[i] := List.getElem?_eq_getElem hi'
      exact eq_of_nodeAt? (child_nodeAt? h hx hy)
    | _ => cases hnode
  | .object xs, w, h => by
    have hnode := node_eq_of_nodeAt? h
    cases w with
    | object ys =>
      -- The node has the names in their order, so only the values are left to the places below.
      have hnames : xs.map Prod.fst = ys.map Prod.fst := Node.object.inj hnode
      have hlength : xs.length = ys.length := by
        rw [← List.length_map Prod.fst, hnames, List.length_map]
      refine congrArg object (List.ext_getElem hlength fun i hi hi' => Prod.ext ?_ ?_)
      · rw [← List.getElem_map Prod.fst (h := by rwa [List.length_map])]
        simp only [hnames, List.getElem_map]
      · have hx : (object xs).child? i = some xs[i].2 := by rw [child?, List.getElem?_eq_getElem hi, Option.map_some]
        have hy : (object ys).child? i = some ys[i].2 := by rw [child?, List.getElem?_eq_getElem hi', Option.map_some]
        exact eq_of_nodeAt? (child_nodeAt? h hx hy)
    | _ => cases hnode
  | .null, w, h | .bool _, w, h | .int _, w, h | .float _, w, h | .text _, w, h => by
    have hnode := node_eq_of_nodeAt? h
    cases w <;> cases hnode
    rfl
termination_by v => sizeOf v
decreasing_by
  all_goals exact sizeOf_child?_lt hx

end

end Json

namespace Template

/-- What stands at a place of a resolved value. -/
def resolveNode (answers : Answers) (vars : Variables) : Json.Node → Json.Node
  | .text s => .text (resolveText answers vars s)
  | n => n

/-- Some part of the text is a token. -/
def HasToken (cs : List Char) : Prop := ∃ t src, IsToken t src ∧ src <:+: cs

section
variable {answers : Answers} {vars : Variables} {cs : List Char} {v : Json} {i : Nat}

/-! ### A text without tokens -/

theorem hasToken_iff : HasToken cs ↔ (cs.tails.any fun rest => (token? rest).isSome) = true := by
  simp only [List.any_eq_true, List.mem_tails, Option.isSome_iff_exists, Prod.exists, ← tokenAt_iff]
  constructor
  · rintro ⟨t, src, hsrc, before, after, rfl⟩
    exact ⟨src ++ after, ⟨before, (List.append_assoc _ _ _).symm⟩, t, after, src, hsrc, rfl⟩
  · rintro ⟨rest, ⟨before, rfl⟩, t, after, src, hsrc, rfl⟩
    exact ⟨t, src, hsrc, before, after, List.append_assoc _ _ _⟩

theorem pieces_of_not_hasToken (h : ¬ HasToken cs) : pieces cs = cs.map .char := by
  induction cs with
  | nil => rw [pieces]; rfl
  | cons c rest ih =>
    rw [hasToken_iff, List.tails_cons, List.any_cons, Bool.or_eq_true, not_or, ← hasToken_iff] at h
    rw [pieces_of_char (Option.not_isSome_iff_eq_none.mp h.1), ih h.2, List.map_cons]

theorem resolveText_of_not_hasToken {s : String} (h : ¬ HasToken s.toList) : resolveText answers vars s = s := by
  rw [resolveText_eq_fill, fill_of_pieces (pieces_of_not_hasToken h)]

/-! ### What stands in a resolved value -/

theorem resolveItems_eq_map (answers : Answers) (vars : Variables) (items : List Json) :
    resolveItems answers vars items = items.map (resolveJson answers vars) := by
  induction items with
  | nil => rfl
  | cons v rest ih => rw [resolveItems, ih, List.map_cons]

theorem resolveMembers_eq_map (answers : Answers) (vars : Variables) (members : List (String × Json)) :
    resolveMembers answers vars members = members.map fun m => (m.1, resolveJson answers vars m.2) := by
  induction members with
  | nil => rfl
  | cons m rest ih => rw [resolveMembers, ih, List.map_cons]

theorem names_resolveMembers (answers : Answers) (vars : Variables) (members : List (String × Json)) :
    Members.names (resolveMembers answers vars members) = Members.names members := by
  rw [resolveMembers_eq_map, Members.names, List.map_map]
  rfl

theorem node_resolveJson (v : Json) : (resolveJson answers vars v).node = resolveNode answers vars v.node := by
  cases v with
  | array items => rw [resolveJson, Json.node, resolveItems_eq_map, List.length_map]; rfl
  | object members => rw [resolveJson, Json.node, names_resolveMembers]; rfl
  | _ => rfl

theorem child?_resolveJson (v : Json) (i : Nat) :
    (resolveJson answers vars v).child? i = (v.child? i).map (resolveJson answers vars) := by
  cases v with
  | array items => rw [resolveJson, Json.child?, resolveItems_eq_map, List.getElem?_map]; rfl
  | object members =>
    rw [resolveJson, Json.child?, resolveMembers_eq_map, List.getElem?_map, Option.map_map, Json.child?, Option.map_map]
    rfl
  | _ => rfl

theorem at?_resolveJson (v : Json) (place : List Nat) :
    (resolveJson answers vars v).at? place = (v.at? place).map (resolveJson answers vars) := by
  induction place generalizing v with
  | nil => rfl
  | cons i place ih =>
    rw [Json.at?, Json.at?, child?_resolveJson]
    cases v.child? i with
    | none => rfl
    | some w => exact ih w

theorem nodeAt?_resolveJson (v : Json) (place : List Nat) :
    (resolveJson answers vars v).nodeAt? place = (v.nodeAt? place).map (resolveNode answers vars) := by
  rw [Json.nodeAt?, Json.nodeAt?, at?_resolveJson, Option.map_map, Option.map_map]
  exact congrArg (fun f => (v.at? place).map f) (funext node_resolveJson)

/-- Members under names of their own can be collected one after the other: none is lost and none is moved. -/
theorem ofList_resolveMembers {members : List (String × Json)} (h : (Members.names members).Nodup) :
    Members.ofList (resolveMembers answers vars members) = resolveMembers answers vars members :=
  Members.ofList_of_nodup (by rwa [names_resolveMembers])

theorem resolveJson_of_no_token (h : ∀ place s, v.nodeAt? place = some (.text s) → ¬ HasToken s.toList) :
    resolveJson answers vars v = v := by
  -- Nothing is moved, so it is enough to look at one place at a time.
  refine Json.eq_of_nodeAt? fun place => ?_
  rw [nodeAt?_resolveJson]
  cases hnode : v.nodeAt? place with
  | none => rfl
  | some n =>
    cases n with
    | text s => rw [Option.map_some, resolveNode, resolveText_of_not_hasToken (h place s hnode)]
    | _ => rfl

end

end Template

/-! ### Blocks -/

open Template

/-- The properties of a block as one value. -/
def Block.bag (b : Block) : Json := .object b.properties.toList

/-- The second block is the first one with its texts resolved: all else is as it was, at every place. -/
structure IsResolved (answers : Answers) (vars : Variables) (b resolved : Block) : Prop where
  id : resolved.id = b.id
  kind : resolved.kind = b.kind
  validations : resolved.validations = b.validations
  properties : ∀ place, resolved.bag.nodeAt? place = (b.bag.nodeAt? place).map (resolveNode answers vars)

section
variable {answers : Answers} {vars : Variables} {b resolved : Block}

theorem Block.ext_bag (hid : resolved.id = b.id) (hkind : resolved.kind = b.kind)
    (hvalidations : resolved.validations = b.validations) (hbag : resolved.bag = b.bag) : resolved = b := by
  obtain ⟨id, kind, properties, validations⟩ := b
  obtain ⟨id', kind', properties', validations'⟩ := resolved
  obtain rfl : properties' = properties := Entries.ext (Json.object.inj hbag)
  cases hid
  cases hkind
  cases hvalidations
  rfl

theorem Block.bag_resolve (answers : Answers) (vars : Variables) (b : Block) :
    (b.resolve answers vars).bag = resolveJson answers vars b.bag := by
  rw [bag, bag, resolveJson, resolveMembers_eq_map]
  rfl

theorem isResolved_iff : IsResolved answers vars b resolved ↔ resolved = b.resolve answers vars := by
  constructor
  · intro h
    refine Block.ext_bag h.id h.kind h.validations (Json.eq_of_nodeAt? fun place => ?_)
    rw [h.properties, Block.bag_resolve, nodeAt?_resolveJson]
  · rintro rfl
    refine ⟨rfl, rfl, rfl, fun place => ?_⟩
    rw [Block.bag_resolve, nodeAt?_resolveJson]

theorem forall₂_isResolved_iff {blocks shown : List Block} :
    List.Forall₂ (IsResolved answers vars) blocks shown ↔ shown = blocks.map (Block.resolve answers vars) := by
  have hresolved : IsResolved answers vars = fun b shown => b.resolve answers vars = shown := by
    funext b shown
    exact propext (isResolved_iff.trans eq_comm)
  rw [hresolved, ← List.forall₂_map_left_iff, List.forall₂_eq_eq_eq, eq_comm]

end

/-- **Resolving keeps the shape of a page.** The resolved blocks are as many as there were, in the same order, each with
its id, kind and validations, and at every place of its properties stands what stood there: a list of the same length,
an object with the same names in the same order, the same number, truth value or null, or the text that stood there,
resolved. Only one list of blocks is like that. Where an object has no name twice, no member is lost or moved when the
resolved ones are collected one after the other. A block that has no text with a token in it stays as it is. -/
theorem resolving_keeps_shape (blocks : List Block) (answers : Answers) (vars : Variables) :
    (∀ shown, List.Forall₂ (IsResolved answers vars) blocks shown ↔ shown = blocks.map (Block.resolve answers vars)) ∧
    (∀ b ∈ blocks, ∀ place members, b.bag.at? place = some (.object members) → (Members.names members).Nodup →
      (b.resolve answers vars).bag.at? place =
        some (.object (Members.ofList (members.map fun m => (m.1, resolveJson answers vars m.2))))) ∧
    ∀ b ∈ blocks, (∀ place s, b.bag.nodeAt? place = some (.text s) → ¬ HasToken s.toList) →
      b.resolve answers vars = b := by
  refine ⟨fun shown => forall₂_isResolved_iff, fun b _ place members hplace hnames => ?_, fun b _ hnone => ?_⟩
  · rw [Block.bag_resolve, at?_resolveJson, hplace, Option.map_some, resolveJson, ← resolveMembers_eq_map,
      ofList_resolveMembers hnames]
  · refine Block.ext_bag rfl rfl rfl ?_
    rw [Block.bag_resolve, resolveJson_of_no_token hnone]

/-- A list with a token in a text and one in the name of a member. -/
def listing : Block where
  id := "listing"
  kind := .list
  properties := Entries.ofList [("items", .array
    [.object [("title", .text "Age \x7b\x7bblock:age\x7d\x7d"), ("\x7b\x7bvar:n\x7d\x7d", .int 3)], .bool true])]

/-- A heading with braces in its text and no token. -/
def braced : Block where
  id := "braced"
  kind := .heading
  properties := Entries.ofList [("text", .text "\x7b\x7bpage:p\x7d\x7d")]

theorem resolving_keeps_shape_of_listing :
    (∀ place s, braced.bag.nodeAt? place = some (.text s) → ¬ HasToken s.toList) ∧ braced.resolve ∅ ∅ = braced ∧
    (listing.resolve (Entries.ofList [("age", .text "36")]) ∅).bag.at? [0, 0] =
      some (.object [("title", .text "Age 36"), ("\x7b\x7bvar:n\x7d\x7d", .int 3)]) := by
  have hnone : ∀ place s, braced.bag.nodeAt? place = some (.text s) → ¬ HasToken s.toList := by
    rintro (_ | ⟨_ | i, _ | ⟨j, place⟩⟩) s h <;> cases h
    rw [hasToken_iff]
    decide
  have hkept := (resolving_keeps_shape [braced] ∅ ∅).2.2
  have hcollected := (resolving_keeps_shape [listing] (Entries.ofList [("age", .text "36")]) ∅).2.1
  refine ⟨hnone, hkept braced List.mem_cons_self hnone, ?_⟩
  have htext : resolveText (Entries.ofList [("age", .text "36")]) ∅ "Age \x7b\x7bblock:age\x7d\x7d" = "Age 36" := by
    decide +kernel
  rw [hcollected listing List.mem_cons_self [0, 0] _ rfl (by decide), List.map_cons, resolveJson, htext]
  rfl

end Questionnaire
