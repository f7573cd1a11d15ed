import Recurrence.Document.Yaml.Cursor

namespace Recurrence.Yaml

/-- Characters that end a plain scalar inside brackets or braces. -/
def isFlowMark (c : Char) : Bool :=
  c == ',' || c == '?' || c == '[' || c == ']' || c == '\x7b' || c == '\x7d'

/-- Whether a word of a plain scalar ends here: at a blank, at a colon that is a mark, and inside brackets
    or braces also at their marks. -/
def endsWord (flow : Bool) : List Char → Bool
  | [] => true
  | c :: rest =>
    isGap c || isBreak c || (flow && isFlowMark c) ||
      (c == ':' &&
        (endsMark rest || (flow && (rest.head?.map fun next => next != '?' && isFlowMark next).getD false)))

/-- The word of a plain scalar that stands here, which follows `done` in reverse. -/
def wordFrom (flow : Bool) : (done : List Char) → List Char → List Char
  | done, [] => done.reverse
  | done, c :: rest => if endsWord flow (c :: rest) then done.reverse else wordFrom flow (c :: done) rest

/-- Whether a plain scalar may begin here. -/
def startsPlain (flow : Bool) : List Char → Bool
  | [] => false
  | c :: rest =>
    !(isGap c || isBreak c || "-?:,[]\x7b\x7d#&*!|>'\"%@`".toList.contains c) ||
      (!endsMark rest && (c == '-' || (!flow && (c == '?' || c == ':'))))

/-- Spaces and line ends from the start of a line on, the line ends in reverse before `done`. There is no
    result where a document's mark begins one of the lines. -/
def breaksFrom : (fuel : Nat) → (done : List Char) → Cursor → Option (List Char) × Cursor
  | 0, _, cursor => (none, cursor)
  | fuel + 1, done, cursor =>
    if isDocumentMark cursor.rest then (none, cursor)
    else
      let cursor := cursor.skipSpaces
      match cursor.lineBreak? with
      | some (c, next) => breaksFrom fuel (c :: done) next
      | none => (some done.reverse, cursor)

/-- What stands between two words: the text that it stands for, the cursor after it, and whether there
    was a line end. Without a text the scalar is over. -/
def plainGap (cursor : Cursor) : Option (List Char) × Cursor × Bool :=
  let (blanks, after) := cursor.span (· == ' ')
  match after.lineBreak? with
  | some (first, next) =>
    match breaksFrom (next.rest.length + 1) [] next with
    | (some others, after) => (some (joinedBreaks first others), after, true)
    | (none, after) => (none, after, true)
  | none => (if blanks.isEmpty then none else some blanks, after, false)

/-- The rest of a plain scalar after `done`, which is in reverse, from the end of a gap on. Lines begin at
    the column `least` at least. The result has the scalar, the cursor after it and after the gap that
    follows, and whether this gap had a line end. -/
def plainFrom (flow : Bool) (least : Int) : (fuel : Nat) → (done gap : List Char) → (broke : Bool) →
    Cursor → List Char × Cursor × Bool
  | 0, done, _, broke, cursor => (done.reverse, cursor, broke)
  | fuel + 1, done, gap, broke, cursor =>
    let word := if cursor.rest.head? = some '#' then [] else wordFrom flow [] cursor.rest
    if word.isEmpty then (done.reverse, cursor, broke)
    else
      let done := word.reverse ++ gap.reverse ++ done
      let (found, after, broke) := plainGap (cursor.drop word.length)
      match found with
      | none => (done.reverse, after, broke)
      | some gap =>
        if after.rest.head? = some '#' ∨ (!flow ∧ (after.column : Int) < least) then
          (done.reverse, after, broke)
        else plainFrom flow least fuel done gap broke after

/-- The plain scalar that begins here, the cursor after it, and whether a line has ended since its last word. It
    ends where another token begins, at a comment, and outside brackets and braces at a line that stands too far
    left. -/
def plainScalar (flow : Bool) (least : Int) (cursor : Cursor) : String × Cursor × Bool :=
  let (body, after, broke) := plainFrom flow least (cursor.rest.length + 1) [] [] false cursor
  (String.ofList body, after, broke)

end Recurrence.Yaml
