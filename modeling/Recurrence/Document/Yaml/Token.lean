import Recurrence.Document.Yaml.BlockText
import Recurrence.Document.Yaml.Plain
import Recurrence.Document.Yaml.Property
import Recurrence.Document.Yaml.Quoted

namespace Recurrence.Yaml

/-- A token. -/
inductive Token where
  | streamEnd
  | directive (found : Directive)
  | documentStart
  | documentEnd
  | blockSequenceStart
  | blockMappingStart
  | blockEnd
  | flowSequenceStart
  | flowSequenceEnd
  | flowMappingStart
  | flowMappingEnd
  | blockEntry
  | flowEntry
  | key
  | value
  | reference (name : String)
  | anchor (name : String)
  | tag (written : WrittenTag)
  | scalar (text : String) (isPlain : Bool)

/-- A token that may be a key: its number, its place, and whether it must be one. -/
structure PossibleKey where
  number : Nat
  isRequired : Bool
  index : Nat
  line : Nat
  column : Nat

/-- The tokens that wait and all that decides about the next ones. A token may turn out to be a key only when the
    colon after it is met, on the same line and not too far away; until then the tokens from it on wait. -/
structure Tokens where
  cursor : Cursor
  waiting : List Token := []
  /-- How many tokens have been taken. -/
  taken : Nat := 0
  /-- The column of the innermost block collection, and those of the ones around it. -/
  indent : Int := -1
  outer : List Int := []
  /-- How many brackets and braces are open. -/
  depth : Int := 0
  allowsKey : Bool := true
  /-- The possible key at every depth. -/
  keys : List (Int × PossibleKey) := []
  isDone : Bool := false

namespace Tokens

/-- Whether the cursor is inside brackets or braces. -/
def inFlow (tokens : Tokens) : Bool := tokens.depth != 0

/-- Adds a token. -/
def push (tokens : Tokens) (token : Token) : Tokens :=
  { tokens with waiting := tokens.waiting ++ [token] }

/-- Adds a token of some characters. -/
def pushMark (tokens : Tokens) (length : Nat) (token : Token) : Tokens :=
  { tokens.push token with cursor := tokens.cursor.drop length }

/-- Gives up keys that the cursor has left behind: on another line, or more than 1024 characters ago. -/
def dropStaleKeys (tokens : Tokens) : Except Fault Tokens :=
  let isStale (key : PossibleKey) : Bool :=
    key.line != tokens.cursor.line || decide (key.index + 1024 < tokens.cursor.index)
  if tokens.keys.any fun entry => isStale entry.2 && entry.2.isRequired then .error .malformed
  else .ok { tokens with keys := tokens.keys.filter fun entry => !isStale entry.2 }

/-- Gives up the possible key at the present depth. -/
def dropKey (tokens : Tokens) : Except Fault Tokens :=
  if tokens.keys.any fun entry => entry.1 == tokens.depth && entry.2.isRequired then .error .malformed
  else .ok { tokens with keys := tokens.keys.filter (·.1 != tokens.depth) }

/-- Notes that the next token may be a key. -/
def noteKey (tokens : Tokens) : Except Fault Tokens :=
  if tokens.allowsKey then do
    let cleared ← tokens.dropKey
    let key : PossibleKey := {
      number := tokens.taken + tokens.waiting.length
      isRequired := !tokens.inFlow && tokens.indent == tokens.cursor.column
      index := tokens.cursor.index
      line := tokens.cursor.line
      column := tokens.cursor.column }
    return { cleared with keys := cleared.keys ++ [(tokens.depth, key)] }
  else .ok tokens

/-- Closes block collections to the right of a column: how many, and the columns that are left. -/
def closed (column : Int) : (indent : Int) → (outer : List Int) → Nat × Int × List Int
  | indent, [] => (0, indent, [])
  | indent, next :: outer =>
    if column < indent then
      let (count, rest) := closed column next outer
      (count + 1, rest)
    else (0, indent, next :: outer)

/-- Closes the block collections to the right of a column, unless brackets or braces are open. -/
def closeTo (tokens : Tokens) (column : Int) : Tokens :=
  if tokens.inFlow then tokens
  else
    let (count, indent, outer) := closed column tokens.indent tokens.outer
    { tokens with
      waiting := tokens.waiting ++ List.replicate count .blockEnd
      indent
      outer }

/-- Opens a block collection at a column, unless one is open there or further to the right. Its mark comes
    before the waiting token `place`. -/
def openAt (tokens : Tokens) (column : Int) (place : Nat) (mark : Token) : Tokens :=
  if tokens.indent < column then
    { tokens with
      waiting := tokens.waiting.insertIdx place mark
      indent := column
      outer := tokens.indent :: tokens.outer }
  else tokens

/-- The end of the text. -/
def addEnd (tokens : Tokens) : Except Fault Tokens := do
  let cleared ← (tokens.closeTo (-1)).dropKey
  return { cleared.push .streamEnd with allowsKey := false, keys := [], isDone := true }

/-- A directive. -/
def addDirective (tokens : Tokens) : Except Fault Tokens := do
  let cleared ← (tokens.closeTo (-1)).dropKey
  let (found, cursor) ← directive cleared.cursor
  return { cleared.push (.directive found) with cursor, allowsKey := false }

/-- The mark of a document's start or end. -/
def addDocumentMark (tokens : Tokens) (mark : Token) : Except Fault Tokens := do
  let cleared ← (tokens.closeTo (-1)).dropKey
  return { cleared.pushMark 3 mark with allowsKey := false }

/-- An opening bracket or brace. -/
def addOpening (tokens : Tokens) (mark : Token) : Except Fault Tokens := do
  let noted ← tokens.noteKey
  return { noted.pushMark 1 mark with depth := noted.depth + 1, allowsKey := true }

/-- A closing bracket or brace. -/
def addClosing (tokens : Tokens) (mark : Token) : Except Fault Tokens := do
  let cleared ← tokens.dropKey
  return { cleared.pushMark 1 mark with depth := cleared.depth - 1, allowsKey := false }

/-- A comma between items. -/
def addFlowEntry (tokens : Tokens) : Except Fault Tokens := do
  let cleared ← tokens.dropKey
  return { cleared.pushMark 1 .flowEntry with allowsKey := true }

/-- Opens a collection for a mark of block structure that stands where a key may stand. -/
def openFor (tokens : Tokens) (mark : Token) : Except Fault Tokens :=
  if tokens.inFlow then .ok tokens
  else if !tokens.allowsKey then .error .malformed
  else .ok (tokens.openAt tokens.cursor.column tokens.waiting.length mark)

/-- The dash before an item. -/
def addBlockEntry (tokens : Tokens) : Except Fault Tokens := do
  let cleared ← (← tokens.openFor .blockSequenceStart).dropKey
  return { cleared.pushMark 1 .blockEntry with allowsKey := true }

/-- The mark before a key. -/
def addKey (tokens : Tokens) : Except Fault Tokens := do
  let cleared ← (← tokens.openFor .blockMappingStart).dropKey
  return { cleared.pushMark 1 .key with allowsKey := !cleared.inFlow }

/-- A colon: the possible key at this depth is one. -/
def addValue (tokens : Tokens) : Except Fault Tokens :=
  match tokens.keys.find? (·.1 == tokens.depth) with
  | some (_, key) =>
    let place := key.number - tokens.taken
    let known := { tokens with
      keys := tokens.keys.filter (·.1 != tokens.depth)
      waiting := tokens.waiting.insertIdx place .key }
    let opened := if known.inFlow then known else known.openAt key.column place .blockMappingStart
    .ok { opened.pushMark 1 .value with allowsKey := false }
  | none => do
    let cleared ← (← tokens.openFor .blockMappingStart).dropKey
    return { cleared.pushMark 1 .value with allowsKey := !cleared.inFlow }

/-- A token that may be a key, from its reader. -/
def addContent (tokens : Tokens) (read : Cursor → Except Fault (Token × Cursor)) :
    Except Fault Tokens := do
  let noted ← tokens.noteKey
  let (token, cursor) ← read noted.cursor
  return { noted.push token with cursor, allowsKey := false }

/-- A plain scalar. A key may follow it on a later line. -/
def addPlain (tokens : Tokens) : Except Fault Tokens := do
  let noted ← tokens.noteKey
  let (text, cursor, broke) := plainScalar noted.inFlow (noted.indent + 1) noted.cursor
  return { noted.push (.scalar text true) with cursor, allowsKey := broke }

/-- A block scalar. -/
def addBlockText (tokens : Tokens) (folded : Bool) : Except Fault Tokens := do
  let cleared ← tokens.dropKey
  let (text, cursor) ← blockText folded cleared.indent cleared.cursor
  return { cleared.push (.scalar text false) with cursor, allowsKey := true }

/-- Adds the next token, which the first character decides, and what comes before it. -/
def fetch (tokens : Tokens) : Except Fault Tokens := do
  let (broke, cursor) := tokens.cursor.token
  let reached := { tokens with
    cursor
    allowsKey := tokens.allowsKey || (broke && !tokens.inFlow) }
  let fresh ← reached.dropStaleKeys
  let tokens := fresh.closeTo cursor.column
  match cursor.rest with
  | [] => tokens.addEnd
  | c :: rest =>
    let isFirst := cursor.column == 0
    let named (read : Cursor → Except Fault (String × Cursor)) (token : String → Token) :=
      tokens.addContent fun cursor => (read cursor).map fun (name, after) => (token name, after)
    if c == '%' && isFirst then tokens.addDirective
    else if c == '-' && isFirst && isDocumentMark cursor.rest then tokens.addDocumentMark .documentStart
    else if c == '.' && isFirst && isDocumentMark cursor.rest then tokens.addDocumentMark .documentEnd
    else if c == '[' then tokens.addOpening .flowSequenceStart
    else if c == '\x7b' then tokens.addOpening .flowMappingStart
    else if c == ']' then tokens.addClosing .flowSequenceEnd
    else if c == '\x7d' then tokens.addClosing .flowMappingEnd
    else if c == ',' then tokens.addFlowEntry
    else if c == '-' && endsMark rest then tokens.addBlockEntry
    else if c == '?' && (tokens.inFlow || endsMark rest) then tokens.addKey
    else if c == ':' && (tokens.inFlow || endsMark rest) then tokens.addValue
    else if c == '*' then named (fun cursor => anchorName cursor.next) .reference
    else if c == '&' then named (fun cursor => anchorName cursor.next) .anchor
    else if c == '!' then
      tokens.addContent fun cursor => (writtenTag cursor).map fun (tag, after) => (.tag tag, after)
    else if c == '|' && !tokens.inFlow then tokens.addBlockText false
    else if c == '>' && !tokens.inFlow then tokens.addBlockText true
    else if c == '\'' || c == '"' then named quotedScalar (.scalar · false)
    else if startsPlain tokens.inFlow cursor.rest then tokens.addPlain
    else .error .malformed

/-- Whether the first waiting token may still turn out to be a key. -/
def isUndecided (tokens : Tokens) : Bool := tokens.keys.any (·.2.number == tokens.taken)

/-- Adds tokens until it is known what the first one is. -/
def readyFrom : (fuel : Nat) → Tokens → Except Fault Tokens
  | 0, _ => .error .malformed
  | fuel + 1, tokens =>
    if tokens.isDone then .ok tokens
    else if tokens.waiting.isEmpty then do
      let more ← tokens.fetch
      more.readyFrom fuel
    else do
      let fresh ← tokens.dropStaleKeys
      if fresh.isUndecided then
        let more ← fresh.fetch
        more.readyFrom fuel
      else return fresh

/-- Adds tokens until it is known what the first one is. Each of them takes a character at least. -/
def ready (tokens : Tokens) : Except Fault Tokens := tokens.readyFrom (tokens.cursor.rest.length + 2)

/-- The tokens of a text. -/
def ofText (text : List Char) : Tokens := { cursor := { rest := text } }

end Tokens

end Recurrence.Yaml
