import Recurrence.Document.Yaml.Node
import Recurrence.Document.Yaml.Scalar

namespace Recurrence.Yaml

namespace Node

/-- The tag of a node. -/
def tag : Node → Tag
  | scalar tag _ => tag
  | sequence tag _ => tag
  | mapping tag _ => tag
  | anchored _ _ node => node.tag
  | enclosing => .seq

/-- The text of a node: a scalar's own, and that of the value that a mapping stands for. -/
def text? : Node → Option String
  | scalar _ text => some text
  | mapping _ entries => ofEntries entries
  | anchored _ _ node => text? node
  | sequence _ _ | enclosing => none
where
  /-- The text under the first key that names the value of a mapping. -/
  ofEntries : List (Node × Node) → Option String
    | [] => none
    | (key, value) :: rest => if key.tag = .value then text? value else ofEntries rest

/-- Whether a node of a tag is a collection, which is filled after what holds it. -/
def isFilledLater : Tag → Bool
  | .seq | .map | .set | .pairs | .orderedMap => true
  | _ => false

/-- The value of a node that is no collection. -/
def single (node : Node) : Except Fault Value :=
  match node.text? with
  | some text => scalarValue node.tag text
  | none => .error .malformed

/-- Refuses a node that has no value. A collection is only checked when it is filled. -/
def check (node : Node) : Except Fault Unit :=
  if isFilledLater node.tag then .ok () else node.single.map fun _ => ()

/-- A key that stands for the value of its mapping is, as a key, only a text. -/
def asKey : Node → Node
  | scalar .value text => scalar .str text
  | anchored number size node => anchored number size node.asKey
  | node => node

/-- The entries of a mapping after those that it takes over from others. -/
def entries : Node → Except Fault (List (Node × Node))
  | mapping _ entries => do
    let (taken, own) ← ofEntries entries
    return taken ++ own
  | anchored _ _ node => entries node
  | _ => .error .malformed
where
  /-- The entries that are taken over, and the own ones. -/
  ofEntries : List (Node × Node) → Except Fault (List (Node × Node) × List (Node × Node))
    | [] => .ok ([], [])
    | (key, value) :: rest =>
      if key.tag = .merge then do
        let found ← merged value
        let (taken, own) ← ofEntries rest
        return (found ++ taken, own)
      else do
        let (taken, own) ← ofEntries rest
        return (taken, (key.asKey, value) :: own)
  /-- The entries of the mappings that are taken over together, those of the first one last. -/
  ofItems : List Node → Except Fault (List (Node × Node))
    | [] => .ok []
    | item :: rest => do
      let found ← entries item
      let before ← ofItems rest
      return before ++ found
  /-- The entries that a node stands for where a mapping takes it over. -/
  merged : Node → Except Fault (List (Node × Node))
    | mapping _ entries => do
      let (taken, own) ← ofEntries entries
      return taken ++ own
    | sequence _ items => ofItems items
    | anchored _ _ node => merged node
    | enclosing => .ok []
    | scalar _ _ => .error .malformed

/-- The only entry of a node. -/
def onlyEntry : Node → Except Fault (Node × Node)
  | mapping _ [entry] => .ok entry
  | anchored _ _ node => node.onlyEntry
  | _ => .error .malformed

/-- A node without its anchor. -/
def bare : Node → Node
  | anchored _ _ node => node.bare
  | node => node

/-- The number that a node is known by, if it has an anchor. -/
def number? : Node → Option Nat
  | anchored number _ _ => some number
  | _ => none

/-- Checks what a collection consists of, and gives those parts that are collections themselves. -/
def fill (node : Node) : Except Fault (List Node) := do
  let parts ←
    match node.bare, node.tag with
    | .enclosing, _ => pure []
    | .sequence _ items, .seq => do
      items.forM check
      pure items
    | _, .seq => throw .malformed
    | _, .map | _, .set => do
      let entries ← node.entries
      entries.forM fun (key, value) => do
        key.check
        if isFilledLater key.tag then throw .malformed
        value.check
      pure (entries.map (·.2))
    | .sequence _ items, _ => do
      let pairs ← items.mapM fun item => do
        let (key, value) ← item.onlyEntry
        key.check
        value.check
        pure [key, value]
      pure pairs.flatten
    | _, _ => throw .malformed
  return parts.filter fun part => isFilledLater part.tag

/-- Fills collections, each after those that were met before it, and each only once; `known` holds the
    numbers of those that have been filled. -/
def fillAll : (fuel : Nat) → (known : List Nat) → List Node → Except Fault Unit
  | 0, _, _ => .ok ()
  | _, _, [] => .ok ()
  | fuel + 1, known, node :: rest =>
    match node.number? with
    | some number =>
      if known.contains number then fillAll fuel known rest
      else do
        let parts ← node.fill
        fillAll fuel (number :: known) (rest ++ parts)
    | none => do
      let parts ← node.fill
      fillAll fuel known (rest ++ parts)

/-- The number that a key is, if it is one; truth values count as 0 and 1. -/
def keyNumber? : Value → Option Int
  | .int number => some number
  | .bool truth => some (if truth then 1 else 0)
  | .real number => number.integer?
  | _ => none

/-- Whether two keys are one. -/
def sameKey (first second : Value) : Bool :=
  match keyNumber? first, keyNumber? second with
  | some first, some second => first == second
  | none, none =>
    match first, second with
    | .null, .null => true
    | .text first, .text second => first == second
    | .real first, .real second => first.stripped == second.stripped
    | .foreign first, .foreign second => first == second
    | _, _ => false
  | _, _ => false

/-- Puts an entry in the place of the one with its key, or at the end. -/
def putEntry (key value : Value) : List (Value × Value) → List (Value × Value)
  | [] => [(key, value)]
  | (old, former) :: rest =>
    if sameKey old key then (old, value) :: rest else (old, former) :: putEntry key value rest

/-- Values of nodes with anchors, by their numbers. -/
abbrev Known := List (Nat × Value)

/-- The value of a node in which everything has one. That of a node with an anchor is made only once. -/
def toValue : (fuel : Nat) → Node → StateM Known Value
  | 0, _ => return .null
  | fuel + 1, node => do
    match node with
    | .anchored number _ inner =>
      match (← get).find? (·.1 == number) with
      | some (_, value) => return value
      | none => do
        let value ← toValue fuel inner
        modify ((number, value) :: ·)
        return value
    | node =>
      if isFilledLater node.tag then
        match node, node.tag with
        | .sequence _ items, .seq => return .list (← items.mapM (toValue fuel))
        | .sequence _ items, _ => do
          let pairs ← (items.filterMap fun item => item.onlyEntry.toOption).mapM fun (key, value) => do
            return Value.list [← toValue fuel key, ← toValue fuel value]
          return .list pairs
        | .mapping _ _, tag => do
          let entries ← (node.entries.toOption.getD []).foldlM (fun done (key, value) => do
            return putEntry (← toValue fuel key) (← toValue fuel value) done) []
          return if tag = .set then .list (entries.map (·.1)) else .map entries
        | _, _ => return .null
      else return node.single.toOption.getD .null

/-- The value of a node. Collections are filled one after the other, the outer ones first, and the first fault
    that is met on the way is the fault of the document. -/
def value (node : Node) : Except Fault Value := do
  node.check
  fillAll node.size [] (if isFilledLater node.tag then [node] else [])
  return ((toValue (node.size + 1) node).run []).1

end Node

/-- Characters that may stand in a document. -/
def isAllowed (c : Char) : Bool :=
  let n := c.toNat
  n == 9 || n == 10 || n == 13 || (0x20 ≤ n && n ≤ 0x7e) || n == 0x85 || (0xa0 ≤ n && n ≤ 0xfffd) ||
    0x10000 ≤ n

/-- The value of the document that a text is; an empty text is null. -/
def read (text : String) : Except Fault Value := do
  let characters := text.toList
  if !characters.all isAllowed then throw .malformed
  else
    match ← Node.ofText characters with
    | some node => node.value
    | none => return .null

end Recurrence.Yaml
