namespace Recurrence.Yaml

/-- Whether a character ends a line. -/
def isBreak (c : Char) : Bool :=
  c == '\n' || c == '\r' || c == '\u0085' || c == '\u2028' || c == '\u2029'

/-- Whether a character is a blank within a line. -/
def isGap (c : Char) : Bool := c == ' ' || c == '\t'

/-- Whether a mark is followed by a blank, the end of its line or the end of the text. -/
def endsMark : List Char → Bool
  | [] => true
  | c :: _ => isGap c || isBreak c

/-- Whether nothing more stands on the line. -/
def endsLine : List Char → Bool
  | [] => true
  | c :: _ => isBreak c

/-- Whether the mark of a document's start or end stands here. -/
def isDocumentMark (text : List Char) : Bool :=
  (text.take 3 == ['-', '-', '-'] || text.take 3 == ['.', '.', '.']) && endsMark (text.drop 3)

/-- The text that is left, and where its first character stands. Structure is read off columns and lines. -/
structure Cursor where
  rest : List Char
  index : Nat := 0
  line : Nat := 0
  column : Nat := 0

namespace Cursor

/-- The cursor after one character. A byte order mark takes no column. -/
def next (cursor : Cursor) : Cursor :=
  match cursor.rest with
  | [] => cursor
  | c :: rest =>
    if isBreak c && !(c == '\r' && rest.head? == some '\n') then
      ⟨rest, cursor.index + 1, cursor.line + 1, 0⟩
    else if c == '\ufeff' then ⟨rest, cursor.index + 1, cursor.line, cursor.column⟩
    else ⟨rest, cursor.index + 1, cursor.line, cursor.column + 1⟩

/-- The cursor after some characters. -/
def drop (cursor : Cursor) : (count : Nat) → Cursor
  | 0 => cursor
  | count + 1 => cursor.next.drop count

/-- The characters from here on as long as they pass a test, and the cursor after them. -/
def span (cursor : Cursor) (test : Char → Bool) : List Char × Cursor :=
  let found := cursor.rest.takeWhile test
  (found, cursor.drop found.length)

/-- The cursor after the spaces that stand here. -/
def skipSpaces (cursor : Cursor) : Cursor := (cursor.span (· == ' ')).2

/-- The cursor after a comment, if one stands here. -/
def skipComment (cursor : Cursor) : Cursor :=
  if cursor.rest.head? = some '#' then (cursor.span fun c => !isBreak c).2 else cursor

/-- The end of a line, if it is here, as the character that it stands for, and the cursor after it. -/
def lineBreak? (cursor : Cursor) : Option (Char × Cursor) :=
  match cursor.rest with
  | '\r' :: '\n' :: _ => some ('\n', cursor.drop 2)
  | c :: _ =>
    if c == '\u2028' || c == '\u2029' then some (c, cursor.next)
    else if isBreak c then some ('\n', cursor.next)
    else none
  | [] => none

/-- Walks over spaces, comments and line ends, and says whether there were any line ends. -/
def tokenFrom : (fuel : Nat) → (broke : Bool) → Cursor → Bool × Cursor
  | 0, broke, cursor => (broke, cursor)
  | fuel + 1, broke, cursor =>
    let cursor := cursor.skipSpaces.skipComment
    match cursor.lineBreak? with
    | some (_, next) => tokenFrom fuel true next
    | none => (broke, cursor)

/-- The cursor at the next token, and whether line ends come before it. A byte order mark may begin the
    text. -/
def token (cursor : Cursor) : Bool × Cursor :=
  let cursor :=
    if cursor.index = 0 ∧ cursor.rest.head? = some '\ufeff' then cursor.next else cursor
  tokenFrom (cursor.rest.length + 1) false cursor

end Cursor

/-- What line ends inside a scalar stand for: the first one alone is a space, and otherwise only the
    others count. A separator of lines or paragraphs stands for itself. -/
def joinedBreaks (first : Char) (others : List Char) : List Char :=
  if first ≠ '\n' then first :: others else if others.isEmpty then [' '] else others

end Recurrence.Yaml
