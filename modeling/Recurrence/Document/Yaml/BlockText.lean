import Recurrence.Document.Yaml.Cursor
import Recurrence.Document.Yaml.Fault
import Recurrence.Text.Digit

namespace Recurrence.Yaml

/-- What becomes of the line ends at the end of a block scalar: one stays, none does, or all do. -/
inductive Chomping where
  | clip
  | strip
  | keep
deriving DecidableEq, Repr

/-- The chomping that a sign asks for. -/
def Chomping.ofSign? (c : Char) : Option Chomping :=
  if c = '+' then some keep else if c = '-' then some strip else none

/-- A digit of a header, which is not zero, and the cursor after it. -/
def headerDigit (cursor : Cursor) : Except Fault (Option Nat × Cursor) :=
  match cursor.rest.head?.bind Text.latinDigit? with
  | some 0 => .error .malformed
  | some digit => .ok (some digit, cursor.next)
  | none => .ok (none, cursor)

/-- The sign and the digit of a header, in either order, and the cursor after them. -/
def header (cursor : Cursor) : Except Fault (Chomping × Option Nat × Cursor) :=
  match cursor.rest.head?.bind Chomping.ofSign? with
  | some chomping => do
    let (digit, after) ← headerDigit cursor.next
    return (chomping, digit, after)
  | none => do
    let (digit, after) ← headerDigit cursor
    match digit.bind fun _ => after.rest.head?.bind Chomping.ofSign? with
    | some chomping => return (chomping, digit, after.next)
    | none => return (.clip, digit, after)

/-- The cursor on the next line, if nothing but spaces and a comment comes before it. -/
def skipRestOfLine (cursor : Cursor) : Except Fault Cursor :=
  let after := cursor.skipSpaces.skipComment
  if endsLine after.rest then .ok ((after.lineBreak?.map (·.2)).getD after) else .error .malformed

/-- Empty lines at the start of a block scalar, in reverse before `done`, the rightmost column that spaces
    reach, and the cursor after them. -/
def leadingLines : (fuel : Nat) → (done : List Char) → (most : Nat) → Cursor → List Char × Nat × Cursor
  | 0, done, most, cursor => (done.reverse, most, cursor)
  | fuel + 1, done, most, cursor =>
    let cursor := cursor.skipSpaces
    let most := max most cursor.column
    match cursor.lineBreak? with
    | some (c, next) => leadingLines fuel (c :: done) most next
    | none => (done.reverse, most, cursor)

/-- The cursor after the spaces that stand here, but not beyond a column. -/
def skipIndent (indent : Nat) (cursor : Cursor) : Cursor :=
  cursor.drop (min (indent - cursor.column) (cursor.rest.takeWhile (· == ' ')).length)

/-- Empty lines between the lines of a block scalar, in reverse before `done`, and the cursor after
    them. -/
def blankLines (indent : Nat) : (fuel : Nat) → (done : List Char) → Cursor → List Char × Cursor
  | 0, done, cursor => (done.reverse, cursor)
  | fuel + 1, done, cursor =>
    let cursor := skipIndent indent cursor
    match cursor.lineBreak? with
    | some (c, next) => blankLines indent fuel (c :: done) next
    | none => (done.reverse, cursor)

/-- Whether a blank stands here. -/
def startsWithGap (text : List Char) : Bool := (text.head?.map isGap).getD false

/-- The rest of a block scalar after `done`, which is in reverse, from the first column of a line on, with
    the line ends before it. The last line end stands apart. -/
def linesFrom (folded : Bool) (indent : Nat) : (fuel : Nat) → (done breaks : List Char) → Cursor →
    List Char × List Char × List Char × Cursor
  | 0, done, breaks, cursor => (done, [], breaks, cursor)
  | fuel + 1, done, breaks, cursor =>
    let (line, after) := cursor.span fun c => !isBreak c
    let done := line.reverse ++ breaks.reverse ++ done
    let (ending, after) :=
      match after.lineBreak? with
      | some (c, next) => ([c], next)
      | none => ([], after)
    let (breaks, after) := blankLines indent (after.rest.length + 1) [] after
    if after.column = indent ∧ !after.rest.isEmpty then
      let isFolded := folded && ending == ['\n'] && !startsWithGap line && !startsWithGap after.rest
      let joint := if isFolded then (if breaks.isEmpty then [' '] else []) else ending
      linesFrom folded indent fuel (joint ++ done) breaks after
    else (done, ending, breaks, after)

/-- The block scalar whose mark stands here, and the cursor after it: text on lines of its own, to the right of
    the column `parent`. Its header says whether lines are folded, how far to the right they stand, and what
    becomes of the line ends after the last line. -/
def blockText (folded : Bool) (parent : Int) (cursor : Cursor) : Except Fault (String × Cursor) := do
  let (chomping, digit, after) ← header cursor.next
  if !endsLine after.rest && after.rest.head? ≠ some ' ' then .error .malformed
  else
    let start ← skipRestOfLine after
    let least := (max (parent + 1) 1).toNat
    let (breaks, indent, start) :=
      match digit with
      | some digit =>
        let indent := least + digit - 1
        let (breaks, start) := blankLines indent (start.rest.length + 1) [] start
        (breaks, indent, start)
      | none =>
        let (breaks, most, start) := leadingLines (start.rest.length + 1) [] 0 start
        (breaks, max least most, start)
    let (done, ending, breaks, after) :=
      if start.column = indent ∧ !start.rest.isEmpty then
        linesFrom folded indent (start.rest.length + 1) [] breaks start
      else ([], [], breaks, start)
    let tail :=
      match chomping with
      | .clip => ending
      | .strip => []
      | .keep => ending ++ breaks
    return (String.ofList (done.reverse ++ tail), after)

end Recurrence.Yaml
