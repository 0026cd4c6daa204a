import Checkpointing.Yaml.Error
import Checkpointing.Yaml.Token

/-!
# Nodes

The nodes of a document as the tokens show them: scalars, sequences and mappings with their anchors and
tags, and aliases. Where a node is left out there is an empty plain scalar.
-/

namespace Checkpointing.Yaml
set_option autoImplicit false

structure Marks where
  anchor : Option String
  tag : Option Tag
deriving DecidableEq, Repr

def Marks.none : Marks := ⟨.none, .none⟩

inductive Node where
  | alias (name : String)
  | scalar (marks : Marks) (text : String) (plain : Bool)
  | sequence (marks : Marks) (items : List Node)
  | mapping (marks : Marks) (entries : List (Node × Node))

namespace Node

def empty : Node := .scalar .none "" true

/-- Tag handles and what they stand for. -/
abbrev Handles := List (String × Tag)

def standardHandles : Handles :=
  [("!", .ofString "!"), ("!!", .ofString "tag:yaml.org,2002:")]

def unexpected : Error := .misplaced "token"

def fullTag (handles : Handles) (handle : String) (suffix : Tag) : Except Error Tag :=
  if handle = "" then .ok suffix
  else
    match handles.lookup handle with
    | some start => .ok (start ++ suffix)
    | none => .error (.undefinedHandle handle)

/-- Reads an anchor and a tag, each at most once and in either order. -/
def readMarks (handles : Handles) : List Token → Except Error (Marks × List Token)
  | .anchor a :: .tag h s :: ts => do return (⟨some a, some (← fullTag handles h s)⟩, ts)
  | .tag h s :: .anchor a :: ts => do return (⟨some a, some (← fullTag handles h s)⟩, ts)
  | .anchor a :: ts => .ok (⟨some a, none⟩, ts)
  | .tag h s :: ts => do return (⟨none, some (← fullTag handles h s)⟩, ts)
  | ts => .ok (.none, ts)

/-- Where a node may stand: in a block, as the key or value of a block's mapping, or within brackets. A
sequence that is a value need not be indented. -/
inductive Context where
  | block
  | value
  | flow
deriving DecidableEq, Repr

/-- Whether a node is left out before this token, in a sequence or a mapping of a block. -/
def endsEntry : List Token → Bool
  | .blockEntry :: _ | .blockEnd :: _ => true
  | _ => false

def endsLooseEntry : List Token → Bool
  | .blockEntry :: _ | .key :: _ | .value :: _ | .blockEnd :: _ => true
  | _ => false

def endsPair : List Token → Bool
  | .key :: _ | .value :: _ | .blockEnd :: _ => true
  | _ => false

mutual

/-- Reads a node. Each step takes a token or is followed by one that does. -/
def read (handles : Handles) : (steps : Nat) → Context → List Token →
    Except Error (Node × List Token)
  | 0, _, _ => .error unexpected
  | _ + 1, _, .alias name :: ts => .ok (.alias name, ts)
  | steps + 1, context, ts => do
    let (marks, ts) ← readMarks handles ts
    match context, ts with
    | .value, .blockEntry :: _ =>
      let (items, ts) ← readLooseItems handles steps ts
      return (.sequence marks items, ts)
    | _, .scalar text plain :: ts => return (.scalar marks text plain, ts)
    | _, .flowSequenceStart :: ts =>
      let (items, ts) ← readFlowItems handles steps true ts
      return (.sequence marks items, ts)
    | _, .flowMappingStart :: ts =>
      let (entries, ts) ← readFlowEntries handles steps true ts
      return (.mapping marks entries, ts)
    | .flow, ts => if marks = .none then throw unexpected else return (.scalar marks "" true, ts)
    | _, .blockSequenceStart :: ts =>
      let (items, ts) ← readItems handles steps ts
      return (.sequence marks items, ts)
    | _, .blockMappingStart :: ts =>
      let (entries, ts) ← readEntries handles steps ts
      return (.mapping marks entries, ts)
    | _, ts => if marks = .none then throw unexpected else return (.scalar marks "" true, ts)

def readItems (handles : Handles) : (steps : Nat) → List Token →
    Except Error (List Node × List Token)
  | steps + 1, .blockEntry :: ts => do
    let (item, ts) ← if endsEntry ts then pure (empty, ts) else read handles steps .block ts
    let (items, ts) ← readItems handles steps ts
    return (item :: items, ts)
  | _ + 1, .blockEnd :: ts => .ok ([], ts)
  | _, _ => .error unexpected

/-- Reads the items of a sequence that is not indented further than the mapping around it. -/
def readLooseItems (handles : Handles) : (steps : Nat) → List Token →
    Except Error (List Node × List Token)
  | 0, _ => .error unexpected
  | steps + 1, .blockEntry :: ts => do
    let (item, ts) ← if endsLooseEntry ts then pure (empty, ts) else read handles steps .block ts
    let (items, ts) ← readLooseItems handles steps ts
    return (item :: items, ts)
  | _ + 1, ts => .ok ([], ts)

/-- Reads the entries of a mapping that is shown by indentation. -/
def readEntries (handles : Handles) : (steps : Nat) → List Token →
    Except Error (List (Node × Node) × List Token)
  | steps + 1, .key :: ts => do
    let (key, ts) ← if endsPair ts then pure (empty, ts) else read handles steps .value ts
    let (value, ts) ← readValue handles steps ts
    let (entries, ts) ← readEntries handles steps ts
    return ((key, value) :: entries, ts)
  | _ + 1, .blockEnd :: ts => .ok ([], ts)
  | _, _ => .error unexpected

/-- Reads the value after a key, which may be left out. -/
def readValue (handles : Handles) : (steps : Nat) → List Token →
    Except Error (Node × List Token)
  | 0, _ => .error unexpected
  | steps + 1, .value :: ts => if endsPair ts then .ok (empty, ts) else read handles steps .value ts
  | _ + 1, ts => .ok (empty, ts)

/-- Reads the items of a sequence in brackets. An item with a key is a mapping of one entry. -/
def readFlowItems (handles : Handles) : (steps : Nat) → (first : Bool) → List Token →
    Except Error (List Node × List Token)
  | 0, _, _ => .error unexpected
  | _ + 1, _, .flowSequenceEnd :: ts => .ok ([], ts)
  | _ + 1, false, .flowEntry :: .flowSequenceEnd :: ts => .ok ([], ts)
  | steps + 1, first, ts => do
    let ts ← match first, ts with
      | true, ts => pure ts
      | false, .flowEntry :: ts => pure ts
      | false, _ => throw unexpected
    let (item, ts) ← match ts with
      | .key :: ts => readPair handles steps ts
      | ts => read handles steps .flow ts
    let (items, ts) ← readFlowItems handles steps false ts
    return (item :: items, ts)

/-- Reads the only entry of a mapping within a sequence in brackets, after its mark. A key that is left
out takes the token after it along. -/
def readPair (handles : Handles) : (steps : Nat) → List Token → Except Error (Node × List Token)
  | 0, _ => .error unexpected
  | steps + 1, ts => do
    let (key, ts) ← match ts with
      | .value :: ts | .flowEntry :: ts | .flowSequenceEnd :: ts => pure (empty, ts)
      | ts => read handles steps .flow ts
    let (value, ts) ← match ts with
      | .value :: .flowEntry :: ts => pure (empty, .flowEntry :: ts)
      | .value :: .flowSequenceEnd :: ts => pure (empty, .flowSequenceEnd :: ts)
      | .value :: ts => read handles steps .flow ts
      | ts => pure (empty, ts)
    return (.mapping .none [(key, value)], ts)

def readFlowEntries (handles : Handles) : (steps : Nat) → (first : Bool) → List Token →
    Except Error (List (Node × Node) × List Token)
  | 0, _, _ => .error unexpected
  | _ + 1, _, .flowMappingEnd :: ts => .ok ([], ts)
  | _ + 1, false, .flowEntry :: .flowMappingEnd :: ts => .ok ([], ts)
  | steps + 1, first, ts => do
    let ts ← match first, ts with
      | true, ts => pure ts
      | false, .flowEntry :: ts => pure ts
      | false, _ => throw unexpected
    let (entry, ts) ← match ts with
      | .key :: ts => readFlowEntry handles steps ts
      | ts => do
        let (key, ts) ← read handles steps .flow ts
        pure ((key, empty), ts)
    let (entries, ts) ← readFlowEntries handles steps false ts
    return (entry :: entries, ts)

def readFlowEntry (handles : Handles) : (steps : Nat) → List Token →
    Except Error ((Node × Node) × List Token)
  | 0, _ => .error unexpected
  | steps + 1, ts => do
    let (key, ts) ← match ts with
      | .value :: _ | .flowEntry :: _ | .flowMappingEnd :: _ => pure (empty, ts)
      | ts => read handles steps .flow ts
    let (value, ts) ← match ts with
      | .value :: .flowEntry :: ts => pure (empty, .flowEntry :: ts)
      | .value :: .flowMappingEnd :: ts => pure (empty, .flowMappingEnd :: ts)
      | .value :: ts => read handles steps .flow ts
      | ts => pure (empty, ts)
    return ((key, value), ts)

end

/-- Reads the directives before a document. A version is given at most once, and so is each handle. -/
def readDirectives (version : Bool) (handles : Handles) :
    List Token → Except Error (Handles × List Token)
  | .version major minor :: ts =>
    if version then .error .repeatedDirective
    else if major = 1 ∧ (minor = 1 ∨ minor = 2) then readDirectives true handles ts
    else .error .unsupportedVersion
  | .handle handle start :: ts =>
    if (handles.lookup handle).isSome then .error .repeatedDirective
    else readDirectives version (handles ++ [(handle, start)]) ts
  | ts => .ok (handles, ts)

/-- Whether a document has no content before this token. -/
def endsDocument : List Token → Bool
  | [] | .version _ _ :: _ | .handle _ _ :: _ | .documentStart :: _ | .documentEnd :: _ => true
  | _ => false

/-- Only marks of its end may follow a document. -/
def endOfDocument : List Token → Except Error Unit
  | [] => .ok ()
  | .documentEnd :: ts => endOfDocument ts
  | _ => .error .severalDocuments

/-- The only document that tokens show; there need be none. -/
def ofTokens? (ts : List Token) : Except Error (Option Node) := do
  if ts = [] then
    return none
  let (defined, rest) ← readDirectives false [] ts
  let handles := defined ++ standardHandles
  let steps := 2 * ts.length + 2
  let (node, rest) ← match rest with
    | .documentStart :: rest =>
      if endsDocument rest then pure (empty, rest) else read handles steps .block rest
    | rest => if rest.length = ts.length then read handles steps .block rest else throw unexpected
  endOfDocument rest
  return some node

end Node
end Checkpointing.Yaml
