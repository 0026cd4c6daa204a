import Checkpointing.Yaml.Node
import Checkpointing.Yaml.Scalar
import Checkpointing.Yaml.Token.Lexer

/-!
# Documents

A document's value is that of its node, with each alias replaced by the node it stands for. An alias
stands for the node whose anchor has its number. The number of an anchor is how many different names
have been anchored before it; a name that is anchored again can so take a number that another name gets
after it, and the later of two anchors with one number holds.
-/

namespace Checkpointing.Yaml
set_option autoImplicit false

/-- A node whose aliases and anchors are numbers. -/
inductive Linked where
  | alias (number : Nat)
  | scalar (anchor : Option Nat) (tag : Option Tag) (text : String) (plain : Bool)
  | sequence (anchor : Option Nat) (tag : Option Tag) (items : List Linked)
  | mapping (anchor : Option Nat) (tag : Option Tag) (entries : List (Linked × Linked))

namespace Linked

/-- The names anchored so far and their numbers. -/
abbrev Names := List (String × Nat)

/-- Numbers an anchor. A name that is anchored again is found under its new number. -/
def number (names : Names) : Option String → Names × Option Nat
  | none => (names, none)
  | some name =>
    let n := names.length
    ((name, n) :: names.filter (·.1 ≠ name), some n)

mutual

/-- Numbers the anchors and aliases of a node in the order of the text. -/
def ofNode (names : Names) : Node → Except Error (Names × Linked)
  | .alias name =>
    match names.lookup name with
    | some n => .ok (names, .alias n)
    | none => .error (.unknownAlias name)
  | .scalar marks text plain =>
    let (names, n) := number names marks.anchor
    .ok (names, .scalar n marks.tag text plain)
  | .sequence marks items => do
    let (names, n) := number names marks.anchor
    let (names, items) ← ofItems names items
    return (names, .sequence n marks.tag items)
  | .mapping marks entries => do
    let (names, n) := number names marks.anchor
    let (names, entries) ← ofEntries names entries
    return (names, .mapping n marks.tag entries)

def ofItems (names : Names) : List Node → Except Error (Names × List Linked)
  | [] => .ok (names, [])
  | item :: items => do
    let (names, item) ← ofNode names item
    let (names, items) ← ofItems names items
    return (names, item :: items)

def ofEntries (names : Names) : List (Node × Node) → Except Error (Names × List (Linked × Linked))
  | [] => .ok (names, [])
  | (key, value) :: entries => do
    let (names, key) ← ofNode names key
    let (names, value) ← ofNode names value
    let (names, entries) ← ofEntries names entries
    return (names, (key, value) :: entries)

end

def anchor? : Linked → Option Nat
  | .alias _ => none
  | .scalar a _ _ _ | .sequence a _ _ | .mapping a _ _ => a

mutual

/-- All nodes with an anchor under their numbers, the last one first. -/
def anchored (found : List (Nat × Linked)) (l : Linked) : List (Nat × Linked) :=
  let found := match l.anchor? with
    | some n => (n, l) :: found
    | none => found
  match l with
  | .alias _ | .scalar _ _ _ _ => found
  | .sequence _ _ items => anchoredItems found items
  | .mapping _ _ entries => anchoredEntries found entries

def anchoredItems (found : List (Nat × Linked)) : List Linked → List (Nat × Linked)
  | [] => found
  | item :: items => anchoredItems (anchored found item) items

def anchoredEntries (found : List (Nat × Linked)) : List (Linked × Linked) → List (Nat × Linked)
  | [] => found
  | (key, value) :: entries => anchoredEntries (anchored (anchored found key) value) entries

end

mutual

/-- How many marks a node takes: one for a scalar or alias, two for the ends of all else. -/
def size : Linked → Nat
  | .alias _ | .scalar _ _ _ _ => 1
  | .sequence _ _ items => 2 + sizeOfItems items
  | .mapping _ _ entries => 2 + sizeOfEntries entries

def sizeOfItems : List Linked → Nat
  | [] => 0
  | item :: items => size item + sizeOfItems items

def sizeOfEntries : List (Linked × Linked) → Nat
  | [] => 0
  | (key, value) :: entries => size key + size value + sizeOfEntries entries

end

/-- What the values of a document's nodes depend on: the nodes with anchors, and how often an alias may
be replaced. -/
structure Scope where
  anchored : List (Nat × Linked)
  limit : Nat

/-- Values are computed under a count of the aliases replaced so far. -/
abbrev Counting := StateT Nat (Except Error)

/-- The node itself, or the one that an alias stands for. -/
def target (scope : Scope) : Linked → Counting Linked
  | .alias n => do
    let count ← get
    if scope.limit ≤ count then
      throw .tooManyAliases
    set (count + 1)
    match scope.anchored.lookup n with
    | some l => pure l
    | none => throw (.unknownAlias "")
  | l => pure l

/-- A value under the document's own tag, if its node has one and that has a text. -/
def tagging (tag : Option Tag) (v : Value) : Value :=
  match (tag.filter Tag.isOwn).bind Tag.text? with
  | some t => .tagged (Value.bareTag t) v
  | none => v

/-- The entries of a mapping. No two keys are the same. -/
def gather {α : Type} (key value : α → Counting Value) (entries : List α) :
    Counting (List (Value × Value)) := do
  let done ← entries.foldlM (fun done entry => do
    let k ← key entry
    if done.any fun (l, _) => k.same l then
      throw .repeatedKey
    let v ← value entry
    return (k, v) :: done) []
  return done.reverse

/-- The value of a node. Sequences and mappings are nested to a depth of at most `depth`. -/
def value (scope : Scope) (depth : Nat) (l : Linked) : Counting Value := do
  match ← target scope l with
  | .alias _ => throw (.unknownAlias "")
  | .scalar _ tag text plain =>
    let known := tag.filter fun t => !t.isOwn
    return tagging tag (← .lift (Scalar.value known text plain))
  | .sequence _ tag items =>
    match depth with
    | 0 => throw .tooDeep
    | depth + 1 => return tagging tag (.sequence (← items.mapM (value scope depth)))
  | .mapping _ tag entries =>
    match depth with
    | 0 => throw .tooDeep
    | depth + 1 =>
      let entries ← gather (fun (k, _) => value scope depth k) (fun (_, v) => value scope depth v)
        entries
      return tagging tag (.mapping entries)

end Linked

def maxDepth : Nat := 128

/-- The value of a text. A text without a document is null. -/
def Value.ofText (text : String) : Except Error Value := do
  match ← Node.ofTokens? (← Token.ofText text) with
  | none => return .null
  | some node =>
    let (_, linked) ← Linked.ofNode [] node
    let scope : Linked.Scope := ⟨linked.anchored [], linked.size * 100⟩
    let (v, _) ← (linked.value scope maxDepth).run 0
    return v

end Checkpointing.Yaml
