import Recurrence.Document.Yaml.Cursor
import Recurrence.Document.Yaml.Fault
import Recurrence.Text.Hexadecimal

namespace Recurrence.Yaml

/-- The character that a short escape stands for. -/
def shortEscape? (c : Char) : Option Char :=
  ([('0', '\x00'), ('a', '\x07'), ('b', '\x08'), ('t', '\t'), ('\t', '\t'), ('n', '\n'),
    ('v', '\x0b'), ('f', '\x0c'), ('r', '\r'), ('e', '\x1b'), (' ', ' '), ('"', '"'), ('/', '/'),
    ('\\', '\\'), ('N', '\u0085'), ('_', '\u00a0'), ('L', '\u2028'), ('P', '\u2029')].find?
    (·.1 == c)).map (·.2)

/-- How many hexadecimal digits follow the letter of a numeric escape. -/
def escapeWidth? (c : Char) : Option Nat :=
  if c = 'x' then some 2 else if c = 'u' then some 4 else if c = 'U' then some 8 else none

/-- The character with a code. Half of a surrogate pair is shown as a replacement character. -/
def characterOf (code : Nat) : Except Fault Char :=
  if 0x7fffffff < code then .error .codeTooLarge
  else if 0x10ffff < code then .error .noSuchValue
  else if 0xd800 ≤ code ∧ code < 0xe000 then .ok '\ufffd'
  else .ok (Char.ofNat code)

/-- Empty lines of a quoted scalar, from the start of a line on, as what they stand for, and the cursor
    at the first character after them. -/
def emptyLines : (fuel : Nat) → Cursor → Except Fault (List Char × Cursor)
  | 0, _ => .error .malformed
  | fuel + 1, cursor =>
    if isDocumentMark cursor.rest then .error .malformed
    else
      let cursor := (cursor.span isGap).2
      match cursor.lineBreak? with
      | some (c, next) => do
        let (others, after) ← emptyLines fuel next
        return (c :: others, after)
      | none => .ok ([], cursor)

/-- What an escape stands for, from the character after its backslash on. -/
def escaped (cursor : Cursor) : Except Fault (List Char × Cursor) :=
  match cursor.rest with
  | [] => .error .malformed
  | c :: rest =>
    match shortEscape? c, escapeWidth? c, cursor.lineBreak? with
    | some meant, _, _ => .ok ([meant], cursor.next)
    | none, some width, _ =>
      let digits := rest.take width
      match Text.hexNumber? digits with
      | some code =>
        if digits.length = width then do
          let meant ← characterOf code
          return ([meant], cursor.drop (width + 1))
        else .error .malformed
      | none => .error .malformed
    | none, none, some (_, next) => emptyLines (next.rest.length + 1) next
    | none, none, none => .error .malformed

/-- Blanks inside a quoted scalar with the line end that may follow them, as what they stand for. -/
def quotedGap (cursor : Cursor) : Except Fault (List Char × Cursor) :=
  let (blanks, after) := cursor.span isGap
  match after.lineBreak? with
  | some (first, next) => do
    let (others, after) ← emptyLines (next.rest.length + 1) next
    return (joinedBreaks first others, after)
  | none => if after.rest.isEmpty then .error .malformed else .ok (blanks, after)

/-- The rest of a quoted scalar after `done`, which is in reverse, and the cursor after the closing
    quote. -/
def quotedFrom (quote : Char) : (fuel : Nat) → (done : List Char) → Cursor →
    Except Fault (List Char × Cursor)
  | 0, _, _ => .error .malformed
  | fuel + 1, done, cursor =>
    match cursor.rest with
    | [] => .error .malformed
    | c :: rest =>
      if c = quote then
        if quote = '\'' ∧ rest.head? = some '\'' then quotedFrom quote fuel ('\'' :: done) (cursor.drop 2)
        else .ok (done.reverse, cursor.next)
      else if c = '\\' ∧ quote = '"' then do
        let (found, after) ← escaped cursor.next
        quotedFrom quote fuel (found.reverse ++ done) after
      else if isGap c || isBreak c then do
        let (found, after) ← quotedGap cursor
        quotedFrom quote fuel (found.reverse ++ done) after
      else quotedFrom quote fuel (c :: done) cursor.next

/-- The quoted scalar that begins here, and the cursor after it. A line end inside is a space, and each empty line
    after it is a line end instead. Between single quotes the only escape is the doubled quote. -/
def quotedScalar (cursor : Cursor) : Except Fault (String × Cursor) :=
  match cursor.rest with
  | quote :: rest => do
    let (body, after) ← quotedFrom quote (rest.length + 1) [] cursor.next
    return (String.ofList body, after)
  | [] => .error .malformed

end Recurrence.Yaml
