import LuaBundle.Yaml.Token

/-! # YAML nodes

A text holds one document, and a document one node. A node that is missing, as between a colon and
the end of its line, is an empty plain scalar.

A node may carry an anchor, and an alias stands for an anchored node. Anchors are numbered: each
takes for its number how many names are known when it is met. An alias takes the number that its
name has at that point, and stands for the last node that carries it.
-/

namespace LuaBundle.Yaml

/-- A node. -/
inductive Node where
  | scalar (text : List Char) (style : ScalarStyle) (tag : Option (List Char))
  | alias (number : Nat)
  | sequence (items : List Node)
  | mapping (entries : List (Node × Node))
  /-- A node with an anchor. -/
  | anchored (number : Nat) (node : Node)
  deriving Repr

/-- A document: its node, or nothing if the text is blank. -/
structure Document where
  root : Option Node := none
  deriving Repr

namespace Node

/-- The node that is not there. -/
def missing : Node :=
  .scalar [] .plain none

mutual

/-- The last node within a node that carries a number. -/
def find? (number : Nat) : Node → Option Node
  | .scalar .. => none
  | .alias _ => none
  | .sequence items => findInItems? number items
  | .mapping entries => findInEntries? number entries
  | .anchored n node => (node.find? number).or (if n = number then some node else none)

/-- The last node within items that carries a number. -/
def findInItems? (number : Nat) : List Node → Option Node
  | [] => none
  | item :: items => (findInItems? number items).or (item.find? number)

/-- The last node within entries that carries a number. -/
def findInEntries? (number : Nat) : List (Node × Node) → Option Node
  | [] => none
  | (key, value) :: entries =>
    (findInEntries? number entries).or ((value.find? number).or (key.find? number))

end

end Node

/-- What a node of a document stands for: an alias stands for the node it names, and an anchor adds
nothing to its node. -/
def Document.meaning (document : Document) : Node → Node
  | .anchored _ node => node
  | .alias number => (document.root.bind (·.find? number)).getD (.alias number)
  | node => node

/-! ## From tokens to nodes -/

/-- The tokens that are left, and what names mean. -/
structure Pending where
  tokens : List Token
  /-- What the handles of tags stand for. -/
  handles : List (List Char × List Char) := []
  /-- The numbers of the anchors, latest first. -/
  anchors : List (List Char × Nat) := []

/-- A computation that takes tokens, and fails where they are out of place. -/
abbrev Taking := StateT Pending Option

namespace Taking

/-- The tokens are out of place. -/
def reject {α : Type} : Taking α :=
  fun _ => none

/-- The next token. -/
def peek : Taking (Option Token) := do
  return (← get).tokens.head?

/-- Take a token. -/
def skip : Taking Unit :=
  modify fun pending => { pending with tokens := pending.tokens.drop 1 }

/-- Whether one of some tokens comes next. -/
def sees (tokens : List Token) : Taking Bool := do
  return (← peek).any tokens.contains

/-- Take a certain token if it comes next. -/
def accept (token : Token) : Taking Bool := do
  if ← sees [token] then
    skip
    return true
  else return false

/-- What a tag stands for. -/
def resolveTag (handle suffix : List Char) : Taking (List Char) := do
  if handle.isEmpty then return suffix
  else
    match (← get).handles.lookup handle with
    | some uri => return uri ++ suffix
    | none => reject

/-- Take an anchor and a tag, in either order. -/
def properties : Taking (Option (List Char) × Option (List Char)) := do
  match ← peek with
  | some (.anchor name) =>
    skip
    match ← peek with
    | some (.tag handle suffix) =>
      skip
      return (some name, some (← resolveTag handle suffix))
    | _ => return (some name, none)
  | some (.tag handle suffix) =>
    skip
    match ← peek with
    | some (.anchor name) =>
      skip
      return (some name, some (← resolveTag handle suffix))
    | _ => return (none, some (← resolveTag handle suffix))
  | _ => return (none, none)

/-- Give an anchor its number. -/
def enroll (name : List Char) : Taking Nat := do
  let anchors := (← get).anchors
  modify fun pending =>
    { pending with anchors := (name, anchors.length) :: anchors.filter (·.1 != name) }
  return anchors.length

/-- Put the number of an anchor on a node. -/
def label : Option Nat → Node → Node
  | some number, node => .anchored number node
  | none, node => node

mutual

/-- Take a node. Block collections stand only where `block` says so, and a sequence that is not
indented only where `level` says so. -/
def node (block level : Bool) : Nat → Taking Node
  | 0 => reject
  | fuel + 1 => do
    match ← peek with
    | some (.alias name) =>
      match (← get).anchors.lookup name with
      | none => reject
      | some number =>
        skip
        return .alias number
    | _ =>
      let (anchor, tag) ← properties
      let number ← anchor.mapM enroll
      match ← peek with
      | some (.scalar text style) =>
        skip
        return label number (.scalar text style (tag.filter (· != ['!'])))
      | some .flowSequenceStart =>
        skip
        return label number (.sequence (← flowItems true fuel))
      | some .flowMappingStart =>
        skip
        return label number (.mapping (← flowEntries true fuel))
      | next =>
        if level && next == some .blockEntry then
          return label number (.sequence (← levelItems fuel))
        else if block && next == some .blockSequenceStart then
          skip
          return label number (.sequence (← blockItems fuel))
        else if block && next == some .blockMappingStart then
          skip
          return label number (.mapping (← blockEntries fuel))
        else if anchor.isSome || tag.isSome then return label number (.scalar [] .plain tag)
        else reject

/-- Take a node, or the missing one if a token follows that ends it. -/
def nodeBefore (ends : List Token) (block level : Bool) : Nat → Taking Node
  | 0 => reject
  | fuel + 1 => do
    if ← sees ends then return .missing
    else node block level fuel

/-- Take the items of an indented sequence and its end. -/
def blockItems : Nat → Taking (List Node)
  | 0 => reject
  | fuel + 1 => do
    if ← accept .blockEntry then
      let item ← nodeBefore [.blockEntry, .blockEnd] true false fuel
      return item :: (← blockItems fuel)
    else if ← accept .blockEnd then return []
    else reject

/-- Take the items of a sequence that is not indented. -/
def levelItems : Nat → Taking (List Node)
  | 0 => reject
  | fuel + 1 => do
    if ← accept .blockEntry then
      let item ← nodeBefore [.blockEntry, .key, .value, .blockEnd] true false fuel
      return item :: (← levelItems fuel)
    else return []

/-- Take the entries of an indented mapping and its end. -/
def blockEntries : Nat → Taking (List (Node × Node))
  | 0 => reject
  | fuel + 1 => do
    if ← accept .key then
      let key ← nodeBefore [.key, .value, .blockEnd] true true fuel
      let value ←
        if ← accept .value then nodeBefore [.key, .value, .blockEnd] true true fuel
        else pure .missing
      return (key, value) :: (← blockEntries fuel)
    else if ← accept .blockEnd then return []
    else reject

/-- Take the items of a sequence in brackets and its end. An item with a colon is a mapping of one
entry. A token that leaves its key out is taken for the key. -/
def flowItems (first : Bool) : Nat → Taking (List Node)
  | 0 => reject
  | fuel + 1 => do
    if ← accept .flowSequenceEnd then return []
    else
      if !first then
        if !(← accept .flowEntry) then reject
      if ← accept .flowSequenceEnd then return []
      else if ← accept .key then
        let key ←
          if ← sees [.value, .flowEntry, .flowSequenceEnd] then
            skip
            pure .missing
          else node false false fuel
        let value ←
          if ← accept .value then nodeBefore [.flowEntry, .flowSequenceEnd] false false fuel
          else pure .missing
        return .mapping [(key, value)] :: (← flowItems false fuel)
      else
        let item ← node false false fuel
        return item :: (← flowItems false fuel)

/-- Take the entries of a mapping in braces and its end. -/
def flowEntries (first : Bool) : Nat → Taking (List (Node × Node))
  | 0 => reject
  | fuel + 1 => do
    if ← accept .flowMappingEnd then return []
    else
      if !first then
        if !(← accept .flowEntry) then reject
      if ← accept .flowMappingEnd then return []
      else if ← accept .key then
        let key ← nodeBefore [.value, .flowEntry, .flowMappingEnd] false false fuel
        let value ←
          if ← accept .value then nodeBefore [.flowEntry, .flowMappingEnd] false false fuel
          else pure .missing
        return (key, value) :: (← flowEntries false fuel)
      else
        let key ← node false false fuel
        return (key, .missing) :: (← flowEntries false fuel)

end

/-- The handles that every document knows. -/
def commonHandles : List (List Char × List Char) :=
  [(['!'], ['!']), (['!', '!'], "tag:yaml.org,2002:".toList)]

/-- Take the directives in front of a document. Each may be given once. -/
def directives (versioned : Bool) : List Token → Taking Unit
  | .versionDirective major minor :: rest => do
    if versioned || major != 1 || (minor != 1 && minor != 2) then reject
    skip
    directives true rest
  | .tagDirective handle uri :: rest => do
    if ((← get).handles.lookup handle).isSome then reject
    skip
    modify fun pending => { pending with handles := pending.handles ++ [(handle, uri)] }
    directives versioned rest
  | _ => modify fun pending => { pending with handles := pending.handles ++ commonHandles }

/-- Take the node of a document that begins with directives or a start marker. -/
def markedNode (fuel : Nat) : Taking Node := do
  directives false (← get).tokens
  if !(← accept .documentStart) then reject
  match ← peek with
  | none => return .missing
  | some (.versionDirective ..) => return .missing
  | some (.tagDirective ..) => return .missing
  | some .documentStart => return .missing
  | some .documentEnd => return .missing
  | some _ => node true false fuel

/-- Take a document. -/
def document (fuel : Nat) : Taking Document := do
  match ← peek with
  | none => return {}
  | some (.versionDirective ..) => return ⟨some (← markedNode fuel)⟩
  | some (.tagDirective ..) => return ⟨some (← markedNode fuel)⟩
  | some .documentStart => return ⟨some (← markedNode fuel)⟩
  | some _ =>
    modify fun pending => { pending with handles := commonHandles }
    return ⟨some (← node true false fuel)⟩

end Taking

/-- The document of a text. Nothing but end markers may follow it. -/
def document? (text : List Char) : Option Document := do
  let tokens ← tokens? text
  let (document, pending) ← Taking.document (4 * tokens.length + 8) { tokens }
  if pending.tokens.all (· == .documentEnd) then some document else none

end LuaBundle.Yaml
