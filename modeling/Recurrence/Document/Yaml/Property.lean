import Recurrence.Document.Yaml.Cursor
import Recurrence.Document.Yaml.Fault
import Recurrence.Text.Hexadecimal
import Recurrence.Text.Numeral

namespace Recurrence.Yaml

/-- Characters of the names of anchors, handles and directives. -/
def isNameChar (c : Char) : Bool := c.isAlphanum || c == '-' || c == '_'

/-- Characters of a tag's address, and the sign that begins an escape in it. -/
def isAddressChar (c : Char) : Bool :=
  isNameChar c || "-;/?:@&=+$,_.!~*'()[]%".toList.contains c

/-- The name of an anchor after its mark, and the cursor after it. -/
def anchorName (cursor : Cursor) : Except Fault (String × Cursor) :=
  let (name, after) := cursor.span isNameChar
  if name.isEmpty then .error .malformed
  else if endsMark after.rest || (after.rest.head?.map "?:,]\x7d%@`".toList.contains).getD false then
    .ok (String.ofList name, after)
  else .error .malformed

/-- The bytes that escapes write, and the cursor after them. -/
def escapedBytes : (fuel : Nat) → Cursor → Except Fault (List UInt8 × Cursor)
  | 0, _ => .error .malformed
  | fuel + 1, cursor =>
    match cursor.rest with
    | '%' :: high :: low :: _ =>
      match Text.hexNumber? [high, low] with
      | some code => do
        let (bytes, after) ← escapedBytes fuel (cursor.drop 3)
        return (code.toUInt8 :: bytes, after)
      | none => .error .malformed
    | '%' :: _ => .error .malformed
    | _ => .ok ([], cursor)

/-- The address of a tag after `done`, and the cursor after it. -/
def addressFrom : (fuel : Nat) → (done : List Char) → Cursor → Except Fault (List Char × Cursor)
  | 0, _, _ => .error .malformed
  | fuel + 1, done, cursor =>
    match cursor.rest with
    | '%' :: _ => do
      let (bytes, after) ← escapedBytes (cursor.rest.length + 1) cursor
      match String.fromUTF8? ⟨bytes.toArray⟩ with
      | some text => addressFrom fuel (done ++ text.toList) after
      | none => .error .malformed
    | c :: _ =>
      if isAddressChar c then
        let (found, after) := cursor.span fun c => isAddressChar c && c != '%'
        addressFrom fuel (done ++ found) after
      else .ok (done, cursor)
    | [] => .ok (done, cursor)

/-- The address of a tag, which is not empty, and the cursor after it. -/
def address (cursor : Cursor) : Except Fault (String × Cursor) := do
  let (found, after) ← addressFrom (cursor.rest.length + 1) [] cursor
  if after.index = cursor.index then .error .malformed else return (String.ofList found, after)

/-- A handle: exclamation marks around a name, or one alone before a space. -/
def handle (cursor : Cursor) : Except Fault (String × Cursor) :=
  match cursor.rest with
  | '!' :: ' ' :: _ => .ok ("!", cursor.next)
  | '!' :: _ =>
    let (name, after) := cursor.next.span isNameChar
    match after.rest with
    | '!' :: _ => .ok ("!" ++ String.ofList name ++ "!", after.next)
    | _ => .error .malformed
  | _ => .error .malformed

/-- A tag as it is written: an address with the handle that its beginning is known by, if any. -/
structure WrittenTag where
  handle : Option String
  address : String

/-- Whether a space or the end of the line stands here. -/
def endsTag (text : List Char) : Bool := endsLine text || text.head? == some ' '

/-- The tag that begins here, and the cursor after it. -/
def writtenTag (cursor : Cursor) : Except Fault (WrittenTag × Cursor) := do
  let (tag, after) ←
    match cursor.rest.drop 1 with
    | '<' :: _ => do
      let (found, after) ← address (cursor.drop 2)
      if after.rest.head? = some '>' then pure (WrittenTag.mk none found, after.next)
      else .error .malformed
    | rest =>
      if endsMark rest then pure (WrittenTag.mk none "!", cursor.next)
      else if (rest.takeWhile fun c => !(endsTag [c])).contains '!' then do
        let (name, after) ← handle cursor
        let (found, after) ← address after
        pure (WrittenTag.mk (some name) found, after)
      else do
        let (found, after) ← address cursor.next
        pure (WrittenTag.mk (some "!") found, after)
  if endsTag after.rest then return (tag, after) else .error .malformed

/-- A line of instructions before a document. -/
inductive Directive where
  | version (major : Nat)
  /-- A handle and what it is short for. -/
  | handle (name replacement : String)
  | other

/-- A number of a version, and the cursor after it. -/
def versionNumber (cursor : Cursor) : Except Fault (Nat × Cursor) :=
  let (digits, after) := cursor.span fun c => (Text.latinDigit? c).isSome
  if digits.isEmpty then .error .malformed
  else if Text.numeralLimit < digits.length then .error .noSuchValue
  else .ok (Text.ofDigits digits, after)

/-- The directive whose mark stands here, and the cursor on the next line. -/
def directive (cursor : Cursor) : Except Fault (Directive × Cursor) := do
  let (name, after) := cursor.next.span isNameChar
  if name.isEmpty || !endsTag after.rest then .error .malformed
  else
    let (found, after) ←
      if name = "YAML".toList then do
        let (major, point) ← versionNumber after.skipSpaces
        if point.rest.head? ≠ some '.' then .error .malformed
        else
          let (_, after) ← versionNumber point.next
          if endsTag after.rest then pure (Directive.version major, after) else .error .malformed
      else if name = "TAG".toList then do
        let (name, after) ← handle after.skipSpaces
        if after.rest.head? ≠ some ' ' then .error .malformed
        else
          let (found, after) ← address after.skipSpaces
          if endsTag after.rest then pure (Directive.handle name found, after) else .error .malformed
      else pure (Directive.other, (after.span fun c => !isBreak c).2)
    let after := after.skipSpaces.skipComment
    if endsLine after.rest then return (found, (after.lineBreak?.map (·.2)).getD after)
    else .error .malformed

end Recurrence.Yaml
