import Recurrence.Document.Yaml.Tag
import Recurrence.Document.Yaml.Token

namespace Recurrence.Yaml

/-- A node: a scalar, a sequence or a mapping with its tag. A node with an anchor stands also wherever its name is
    referred to, and is known again there by its number. -/
inductive Node where
  | scalar (tag : Tag) (text : String)
  | sequence (tag : Tag) (items : List Node)
  | mapping (tag : Tag) (entries : List (Node × Node))
  /-- A node with an anchor: its number and its size. -/
  | anchored (number size : Nat) (node : Node)
  /-- A collection that is referred to inside itself. -/
  | enclosing
deriving Inhabited

namespace Node

/-- How many nodes a node consists of, each counted wherever it stands. -/
def size : Node → Nat
  | scalar _ _ | enclosing => 1
  | sequence _ items => 1 + ofItems items
  | mapping _ entries => 1 + ofEntries entries
  | anchored _ size _ => size
where
  /-- The size of items. -/
  ofItems : List Node → Nat
    | [] => 0
    | item :: rest => size item + ofItems rest
  /-- The size of entries. -/
  ofEntries : List (Node × Node) → Nat
    | [] => 0
    | (key, value) :: rest => size key + size value + ofEntries rest

/-- A node that is not written. -/
def empty : Node := scalar .null ""

/-- How many collections may be open at once. -/
def depthLimit : Nat := 488

/-- A part of a document that is being read: the tokens, what handles are short for, the nodes that have
    names, newest first, and how many collections are open. -/
structure Reading where
  tokens : Tokens
  handles : List (String × String) := []
  named : List (String × Node) := []
  depth : Nat := 0

/-- A step of reading. -/
abbrev Step (α : Type) := StateT Reading (Except Fault) α

/-- The next token. -/
def peek : Step Token := do
  let reading ← get
  let tokens ← reading.tokens.ready
  set { reading with tokens }
  return tokens.waiting.headD .streamEnd

/-- Takes the next token. -/
def take : Step Unit :=
  modify fun reading =>
    { reading with tokens := { reading.tokens with
        waiting := reading.tokens.waiting.drop 1
        taken := reading.tokens.taken + 1 } }

/-- Takes an anchor, if one comes next. -/
def takeAnchor : Step (Option String) := do
  match ← peek with
  | .anchor name => take; return some name
  | _ => return none

/-- Takes a tag, if one comes next. -/
def takeTag : Step (Option WrittenTag) := do
  match ← peek with
  | .tag written => take; return some written
  | _ => return none

/-- Takes an anchor and a tag, in either order, as far as they come next. -/
def takeProperties : Step (Option String × Option WrittenTag) := do
  match ← takeAnchor with
  | some name => return (some name, ← takeTag)
  | none =>
    match ← takeTag with
    | some written => return (← takeAnchor, some written)
    | none => return (none, none)

/-- The address that a written tag stands for. -/
def addressOf (written : Option WrittenTag) : Step (Option String) := do
  match written with
  | none => return none
  | some ⟨none, address⟩ => return some address
  | some ⟨some handle, address⟩ =>
    match (← get).handles.find? (·.1 == handle) with
    | some (_, replacement) => return some (replacement ++ address)
    | none => throw .malformed

/-- The tag of a collection: a bare exclamation mark says nothing. -/
def collectionTag (address : Option String) (default : Tag) : Tag :=
  match address with
  | none => default
  | some address => if address = "!" then default else .ofAddress address

/-- The tag of a scalar: a bare exclamation mark makes it plain. -/
def scalarTag (address : Option String) (text : String) (isPlain : Bool) : Tag :=
  match address with
  | none => if isPlain then .ofPlain text else .str
  | some address => if address = "!" then .ofPlain text else .ofAddress address

/-- Refuses a name that another node has. -/
def checkName (name : Option String) : Step Unit := do
  match name with
  | none => return
  | some name => if (← get).named.any (·.1 == name) then throw .malformed

/-- Gives a node its name, if it has one. What is being read stands for itself then. -/
def giveName (name : Option String) (node : Node) : Step Unit :=
  match name with
  | none => return
  | some name => modify fun reading => { reading with named := (name, node) :: reading.named }

/-- The node with its name, if it has one. -/
def withName (name : Option String) (node : Node) : Step Node := do
  match name with
  | none => return node
  | some _ => do
    let anchored := anchored (← get).named.length (node.size + 1) node
    giveName name anchored
    return anchored

/-- Reads what a collection consists of. -/
def within {α : Type} (content : Step α) : Step α := do
  let depth := (← get).depth
  if depthLimit ≤ depth then throw .tooDeep
  modify fun reading => { reading with depth := depth + 1 }
  let found ← content
  modify fun reading => { reading with depth }
  return found

/-- Whether a token ends what stands after a mark of a block mapping. -/
def endsBlockPart : Token → Bool
  | .key | .value | .blockEnd => true
  | _ => false

/-- Whether a token ends what stands after the mark of a key in a flow collection. -/
def endsFlowKey (closing : Token → Bool) : Token → Bool
  | .value | .flowEntry => true
  | token => closing token

/-- Whether a token ends what stands after a colon in a flow collection. -/
def endsFlowValue (closing : Token → Bool) : Token → Bool
  | .flowEntry => true
  | token => closing token

/-- Whether a token is a closing bracket. -/
def isBracket : Token → Bool
  | .flowSequenceEnd => true
  | _ => false

/-- Whether a token is a closing brace. -/
def isBrace : Token → Bool
  | .flowMappingEnd => true
  | _ => false

/-- Takes the comma that must stand before every item but the first. -/
def takeComma (isFirst : Bool) : Step Unit := do
  if !isFirst then
    match ← peek with
    | .flowEntry => take
    | _ => throw .malformed

mutual

/-- A node. Block collections may begin here only if `block` is set, and a sequence at the column of the
    mapping around it only if `indentless` is set. -/
def read : (fuel : Nat) → (block indentless : Bool) → Step Node
  | 0, _, _ => throw .malformed
  | fuel + 1, block, indentless => do
    match ← peek with
    | .reference name => do
      take
      match (← get).named.find? (·.1 == name) with
      | some (_, node) => return node
      | none => throw .malformed
    | _ => do
      let (name, written) ← takeProperties
      let address ← addressOf written
      let collection (default : Tag) (content : Step (Tag → Node)) : Step Node := do
        checkName name
        giveName name .enclosing
        withName name ((← within content) (collectionTag address default))
      match ← peek, block, indentless with
      | .blockEntry, _, true =>
        collection .seq do return (.sequence · (← indentlessItems fuel))
      | .scalar text isPlain, _, _ => do
        take
        checkName name
        withName name (Node.scalar (scalarTag address text isPlain) text)
      | .flowSequenceStart, _, _ =>
        collection .seq do take; return (.sequence · (← flowItems fuel true))
      | .flowMappingStart, _, _ =>
        collection .map do take; return (.mapping · (← flowEntries fuel true))
      | .blockSequenceStart, true, _ =>
        collection .seq do take; return (.sequence · (← blockItems fuel))
      | .blockMappingStart, true, _ =>
        collection .map do take; return (.mapping · (← blockEntries fuel))
      | _, _, _ =>
        if name.isNone && written.isNone then throw .malformed
        else do
          checkName name
          withName name (Node.scalar (scalarTag address "" true) "")

/-- A node of block structure, unless the next token ends it before it begins. -/
def readUnless (ends : Token → Bool) : (fuel : Nat) → (block indentless : Bool) → Step Node
  | 0, _, _ => throw .malformed
  | fuel + 1, block, indentless => do
    if ends (← peek) then return empty else read fuel block indentless

/-- The items of a sequence in block structure. -/
def blockItems : (fuel : Nat) → Step (List Node)
  | 0 => throw .malformed
  | fuel + 1 => do
    match ← peek with
    | .blockEntry => do
      take
      let ends : Token → Bool
        | .blockEntry | .blockEnd => true
        | _ => false
      let item ← readUnless ends fuel true false
      return item :: (← blockItems fuel)
    | .blockEnd => take; return []
    | _ => throw .malformed

/-- The items of a sequence at the column of the mapping around it. -/
def indentlessItems : (fuel : Nat) → Step (List Node)
  | 0 => throw .malformed
  | fuel + 1 => do
    match ← peek with
    | .blockEntry => do
      take
      let ends : Token → Bool
        | .blockEntry => true
        | token => endsBlockPart token
      let item ← readUnless ends fuel true false
      return item :: (← indentlessItems fuel)
    | _ => return []

/-- The entries of a mapping in block structure. -/
def blockEntries : (fuel : Nat) → Step (List (Node × Node))
  | 0 => throw .malformed
  | fuel + 1 => do
    match ← peek with
    | .key => do
      take
      let key ← readUnless endsBlockPart fuel true true
      let value ← mappedUnless endsBlockPart fuel true true
      return (key, value) :: (← blockEntries fuel)
    | .blockEnd => take; return []
    | _ => throw .malformed

/-- What a key maps to: nothing, unless a colon comes next. -/
def mappedUnless (ends : Token → Bool) : (fuel : Nat) → (block indentless : Bool) → Step Node
  | 0, _, _ => throw .malformed
  | fuel + 1, block, indentless => do
    match ← peek with
    | .value => do
      take
      readUnless ends fuel block indentless
    | _ => return empty

/-- The items of a sequence in brackets. An item with a key's mark is a mapping of one entry. -/
def flowItems : (fuel : Nat) → (isFirst : Bool) → Step (List Node)
  | 0, _ => throw .malformed
  | fuel + 1, isFirst => do
    if isBracket (← peek) then do
      take
      return []
    else do
      takeComma isFirst
      match ← peek with
      | .key => do
        take
        let entry ← within do
          let key ← readUnless (endsFlowKey isBracket) fuel false false
          return (key, ← mappedUnless (endsFlowValue isBracket) fuel false false)
        return .mapping .map [entry] :: (← flowItems fuel false)
      | .flowSequenceEnd => take; return []
      | _ => do
        let item ← read fuel false false
        return item :: (← flowItems fuel false)

/-- The entries of a mapping in braces. -/
def flowEntries : (fuel : Nat) → (isFirst : Bool) → Step (List (Node × Node))
  | 0, _ => throw .malformed
  | fuel + 1, isFirst => do
    if isBrace (← peek) then do
      take
      return []
    else do
      takeComma isFirst
      match ← peek with
      | .key => do
        take
        let key ← readUnless (endsFlowKey isBrace) fuel false false
        let value ← mappedUnless (endsFlowValue isBrace) fuel false false
        return (key, value) :: (← flowEntries fuel false)
      | .flowMappingEnd => take; return []
      | _ => do
        let key ← read fuel false false
        return (key, empty) :: (← flowEntries fuel false)

end

/-- The handles that need no directive. -/
def commonHandles : List (String × String) := [("!", "!"), ("!!", Tag.space)]

/-- Takes the directives before a document. Only one may tell a version, which must be the first, and none
    may explain a handle twice. -/
def takeDirectives : (fuel : Nat) → (hasVersion : Bool) → Step Unit
  | 0, _ => throw .malformed
  | fuel + 1, hasVersion => do
    match ← peek with
    | .directive found => do
      take
      match found with
      | .version major =>
        if hasVersion || major ≠ 1 then throw .malformed else takeDirectives fuel true
      | .handle name replacement => do
        if (← get).handles.any (·.1 == name) then throw .malformed
        else do
          modify fun reading => { reading with handles := reading.handles ++ [(name, replacement)] }
          takeDirectives fuel hasVersion
      | .other => takeDirectives fuel hasVersion
    | _ => modify fun reading => { reading with handles := reading.handles ++ commonHandles }

/-- Takes marks of a document's end. -/
def takeEnds : (fuel : Nat) → Step Unit
  | 0 => throw .malformed
  | fuel + 1 => do
    match ← peek with
    | .documentEnd => do
      take
      takeEnds fuel
    | _ => return

/-- Takes what comes before a document with a mark of its start, and says whether there is one. -/
def takeStart (fuel : Nat) : Step Bool := do
  takeEnds fuel
  match ← peek with
  | .streamEnd => return false
  | _ => do
    modify fun reading => { reading with handles := [] }
    takeDirectives fuel false
    match ← peek with
    | .documentStart => take; return true
    | _ => throw .malformed

/-- The node of a document after the mark of its start. -/
def content (fuel : Nat) : Step Node := do
  match ← peek with
  | .directive _ | .documentStart | .documentEnd | .streamEnd => return empty
  | _ => read fuel true false

/-- The node of the only document, if there is one. -/
def document (fuel : Nat) : Step (Option Node) := do
  let node ←
    match ← peek with
    | .directive _ | .documentStart | .streamEnd =>
      if ← takeStart fuel then some <$> content fuel else pure none
    | _ => do
      modify fun reading => { reading with handles := commonHandles }
      some <$> read fuel true false
  if node.isSome then
    if ← takeStart fuel then throw .malformed
  return node

/-- The node that a text holds, if it is not empty. Reading takes a token for every few steps, and there
    are a few tokens at most for every character, which bounds the depth. -/
def ofText (text : List Char) : Except Fault (Option Node) := do
  let (node, _) ← (document (16 * text.length + 64)).run { tokens := .ofText text }
  return node

end Node

end Recurrence.Yaml
