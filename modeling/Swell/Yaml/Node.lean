import Swell.Yaml.Token

/-!
# Nodes of a document

A document is a tree of scalars, sequences and mappings. A node may have an anchor, and an alias
stands for the node that has one.
-/
namespace Swell.Yaml

inductive Node where
  | scalar (text : String) (style : ScalarStyle) (tag : Option String)
  | sequence (items : List Node) (tag : Option String)
  | mapping (entries : List (Node × Node)) (tag : Option String)
  /-- Stands for the node with an anchor of this number. -/
  | alias (anchor : Nat)

namespace Node

/-- What stands where nothing is written. -/
def empty : Node :=
  .scalar "" .plain none

end Node

def coreTags : String := "tag:yaml.org,2002:"

def defaultHandles : List (String × String) :=
  [("!", "!"), ("!!", coreTags)]

structure NodeReader where
  tokens : List Token
  /-- The handles of tags, with the beginnings that they stand for. -/
  handles : List (String × String)
  /-- The names of anchors with their numbers; the newest number of a name counts. -/
  names : List (String × Nat)
  /-- The nodes with anchors, in the order in which they start. -/
  anchored : Array (Nat × Node)
  /-- How many scalars and aliases were met, and starts and ends of sequences and mappings. -/
  marks : Nat

abbrev ReadNode := StateT NodeReader Option

namespace NodeReader

/-- The number of an anchor that is set now: how many names there were before. -/
def nextNumber (r : NodeReader) : Nat :=
  r.names.length

def setName (r : NodeReader) (name : String) : NodeReader :=
  { r with names := (name, r.nextNumber) :: r.names.filter fun n => n.1 != name }

def number? (r : NodeReader) (name : String) : Option Nat :=
  (r.names.find? fun n => n.1 == name).map (·.2)

end NodeReader

private def peek : ReadNode (Option Token) := do
  return (← get).tokens.head?

private def advance : ReadNode Unit :=
  modify fun r => { r with tokens := r.tokens.tail }

private def accept (t : Token) : ReadNode Bool := do
  if (← peek) == some t then
    advance
    return true
  else return false

private def expect (t : Token) : ReadNode Unit := do
  if !(← accept t) then failure

private def nextIsOneOf (ts : List Token) : ReadNode Bool := do
  return (← peek).any ts.contains

private def mark (count : Nat) : ReadNode Unit :=
  modify fun r => { r with marks := r.marks + count }

private def nothing : ReadNode Node := do
  mark 1
  return Node.empty

private def resolveTag (handle suffix : String) : ReadNode String := do
  if handle = "" then return suffix
  match (← get).handles.find? fun h => h.1 == handle with
  | some (_, beginning) => return beginning ++ suffix
  | none => failure

private def properties : ReadNode (Option String × Option String) := do
  match ← peek with
  | some (.anchor name) =>
    advance
    match ← peek with
    | some (.tag handle suffix) =>
      advance
      return (some name, some (← resolveTag handle suffix))
    | _ => return (some name, none)
  | some (.tag handle suffix) =>
    advance
    match ← peek with
    | some (.anchor name) =>
      advance
      return (some name, some (← resolveTag handle suffix))
    | _ => return (none, some (← resolveTag handle suffix))
  | _ => return (none, none)

/-- Reads a node and records it under its anchor, if it has one. The anchor holds already inside
the node. -/
private def anchoredAs (anchor : Option String) (read : ReadNode Node) : ReadNode Node :=
  match anchor with
  | none => read
  | some name => do
    let r ← get
    let place := r.anchored.size
    set { r.setName name with anchored := r.anchored.push (r.nextNumber, Node.empty) }
    let node ← read
    modify fun s => { s with anchored := s.anchored.setIfInBounds place (r.nextNumber, node) }
    return node

mutual

/-- A node. In a block it may be a block of its own; `indentless` allows a sequence that stands in
the same column as the mapping around it. -/
private def readNode (inBlock indentless : Bool) : Nat → ReadNode Node
  | 0 => failure
  | fuel + 1 => do
    if let some (.alias name) ← peek then
      advance
      mark 1
      match (← get).number? name with
      | some number => return .alias number
      | none => failure
    let (anchor, tag) ← properties
    anchoredAs anchor do
      match ← peek with
      | some (.scalar text style) =>
        advance
        mark 1
        return .scalar text style (if tag == some "!" then none else tag)
      | some .flowSequenceStart =>
        advance
        return .sequence (← readFlowSequence fuel true []) tag
      | some .flowMappingStart =>
        advance
        return .mapping (← readFlowMapping fuel true []) tag
      | some .blockEntry =>
        if indentless then return .sequence (← readIndentless fuel []) tag
        else absent anchor tag
      | some .blockSequenceStart =>
        if inBlock then
          advance
          return .sequence (← readBlockSequence fuel []) tag
        else absent anchor tag
      | some .blockMappingStart =>
        if inBlock then
          advance
          return .mapping (← readBlockMapping fuel []) tag
        else absent anchor tag
      | _ => absent anchor tag
where
  /-- A node of which only the properties are written. -/
  absent (anchor tag : Option String) : ReadNode Node := do
    if anchor.isNone && tag.isNone then failure
    mark 1
    return .scalar "" .plain tag

private def readBlockSequence : Nat → List Node → ReadNode (List Node)
  | 0, _ => failure
  | fuel + 1, found => do
    if ← accept .blockEnd then
      mark 2
      return found.reverse
    expect .blockEntry
    let item ←
      if ← nextIsOneOf [.blockEntry, .blockEnd] then nothing else readNode true false fuel
    readBlockSequence fuel (item :: found)

private def readIndentless : Nat → List Node → ReadNode (List Node)
  | 0, _ => failure
  | fuel + 1, found => do
    if ← accept .blockEntry then
      let item ←
        if ← nextIsOneOf [.blockEntry, .key, .value, .blockEnd] then nothing
        else readNode true false fuel
      readIndentless fuel (item :: found)
    else
      mark 2
      return found.reverse

private def readBlockMapping : Nat → List (Node × Node) → ReadNode (List (Node × Node))
  | 0, _ => failure
  | fuel + 1, found => do
    if ← accept .blockEnd then
      mark 2
      return found.reverse
    expect .key
    let key ← readBlockPart fuel
    let value ← if ← accept .value then readBlockPart fuel else nothing
    readBlockMapping fuel ((key, value) :: found)

private def readBlockPart : Nat → ReadNode Node
  | 0 => failure
  | fuel + 1 => do
    if ← nextIsOneOf [.key, .value, .blockEnd] then nothing else readNode true true fuel

/-- The items of a sequence between brackets. A comma stands between two of them, and may stand
behind the last. -/
private def readFlowSequence : Nat → (isFirst : Bool) → List Node → ReadNode (List Node)
  | 0, _, _ => failure
  | fuel + 1, isFirst, found => do
    if ← accept .flowSequenceEnd then
      mark 2
      return found.reverse
    if !isFirst then expect .flowEntry
    if ← accept .flowSequenceEnd then
      mark 2
      return found.reverse
    let item ← if ← accept .key then readPair fuel else readNode false false fuel
    readFlowSequence fuel false (item :: found)

/-- A mapping with one entry that stands as an item between brackets. An empty key takes the token
behind it along. -/
private def readPair : Nat → ReadNode Node
  | 0 => failure
  | fuel + 1 => do
    let key ←
      if ← nextIsOneOf [.value, .flowEntry, .flowSequenceEnd] then do
        advance
        nothing
      else readNode false false fuel
    let value ←
      if ← accept .value then
        if ← nextIsOneOf [.flowEntry, .flowSequenceEnd] then nothing
        else readNode false false fuel
      else nothing
    mark 2
    return .mapping [(key, value)] none

private def readFlowMapping :
    Nat → (isFirst : Bool) → List (Node × Node) → ReadNode (List (Node × Node))
  | 0, _, _ => failure
  | fuel + 1, isFirst, found => do
    if ← accept .flowMappingEnd then
      mark 2
      return found.reverse
    if !isFirst then expect .flowEntry
    if ← accept .flowMappingEnd then
      mark 2
      return found.reverse
    if ← accept .key then
      let key ← readFlowPart fuel
      let value ← if ← accept .value then readFlowPart fuel else nothing
      readFlowMapping fuel false ((key, value) :: found)
    else
      let key ← readNode false false fuel
      let value ← nothing
      readFlowMapping fuel false ((key, value) :: found)

private def readFlowPart : Nat → ReadNode Node
  | 0 => failure
  | fuel + 1 => do
    if ← nextIsOneOf [.value, .flowEntry, .flowMappingEnd] then nothing
    else readNode false false fuel

end

structure Document where
  root : Node
  anchored : Array (Nat × Node)
  marks : Nat

/-- The node that an alias stands for: the last one that has an anchor of the number. -/
def Document.target? (d : Document) (anchor : Nat) : Option Node :=
  (d.anchored.toList.reverse.find? fun a => a.1 == anchor).map (·.2)

/-- The directives in front of a document. There is one version at most, and each handle is set
once at most. -/
private def directives : Nat → (versioned : Bool) → ReadNode Unit
  | 0, _ => failure
  | fuel + 1, versioned => do
    match ← peek with
    | some (.version major minor) =>
      if versioned || major ≠ 1 || (minor ≠ 1 && minor ≠ 2) then failure
      advance
      directives fuel true
    | some (.tagHandle handle beginning) =>
      if (← get).handles.any fun h => h.1 == handle then failure
      advance
      modify fun r => { r with handles := (handle, beginning) :: r.handles }
      directives fuel versioned
    | _ => return ()

private def explicitDocument (fuel : Nat) : ReadNode Node := do
  directives fuel false
  expect .documentStart
  modify fun r => { r with handles := r.handles ++ defaultHandles }
  match ← peek with
  | none | some .documentStart | some .documentEnd | some (.version ..) | some (.tagHandle ..) =>
    nothing
  | _ => readNode true false fuel

private def onlyDocument (fuel : Nat) : ReadNode Node := do
  let root ←
    match ← peek with
    | none => nothing
    | some .documentStart | some (.version ..) | some (.tagHandle ..) => explicitDocument fuel
    | _ => do
      modify fun r => { r with handles := defaultHandles }
      readNode true false fuel
  if (← get).tokens.any (· != .documentEnd) then failure
  return root

namespace Document

/-- The document that tokens form. Tokens of several documents form none; without any, the
document has nothing in it. -/
def ofTokens? (tokens : List Token) : Option Document :=
  (onlyDocument (3 * tokens.length + 4) ⟨tokens, [], [], #[], 0⟩).map fun (root, r) =>
    ⟨root, r.anchored, r.marks⟩

end Document
end Swell.Yaml
