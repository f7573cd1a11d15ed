import Recurrence.Rule.Basic
import Recurrence.Moment.Literal
import Recurrence.Text.Split

namespace Recurrence

open Text (NumeralError leadingInteger)

/-- What a segment is about. -/
inductive SegmentKey where
  | frequency
  | interval
  | bound
  | weekStart
  | weekdays
  | positions
  | count
deriving DecidableEq, Repr

namespace SegmentKey

/-- All keys. -/
def all : List SegmentKey :=
  [.frequency, .interval, .bound, .weekStart, .weekdays, .positions, .count]

/-- The spelling of a key. -/
def name : SegmentKey → String
  | .frequency => "FREQ"
  | .interval => "INTERVAL"
  | .bound => "UNTIL"
  | .weekStart => "WKST"
  | .weekdays => "BYDAY"
  | .positions => "BYSETPOS"
  | .count => "COUNT"

/-- The key with a spelling. -/
def ofName? (name : String) : Option SegmentKey := all.find? (·.name == name)

end SegmentKey

/-- A segment with a known key. -/
structure Segment where
  key : SegmentKey
  value : List Char
deriving DecidableEq

namespace Segment

/-- Reads one segment; a segment without an equals sign has an empty value. -/
def read? (text : List Char) : Option Segment := do
  let (key, value) := Text.cut '=' text
  let key ← SegmentKey.ofName? (String.ofList (Text.strip key))
  return ⟨key, Text.strip value⟩

/-- The segments `KEY=value` of a body, between semicolons, in the order written. Blanks around keys and values do
    not count, and segments with an unknown key are dropped. -/
def readAll (body : List Char) : List Segment := (Text.fields ';' body).filterMap read?

/-- The value as a text. -/
def text (segment : Segment) : String := String.ofList segment.value

/-- The items of a value between commas. -/
def items (segment : Segment) : List (List Char) := Text.fields ',' segment.value

end Segment

/-- The number that a value starts with, if it is at least one. -/
def readPositive (value : List Char) : Except NumeralError (Option Positive) :=
  (leadingInteger value).map (·.bind Positive.ofInt?)

/-- An interval; what is no number of at least one counts as one. -/
def readInterval (value : List Char) : Except NumeralError Positive :=
  (readPositive value).map (·.getD .one)

/-- Weekdays; an unknown token counts as Monday. -/
def readWeekdays (items : List (List Char)) : List Weekday :=
  items.map fun item => (Weekday.ofToken? (String.ofList (Text.strip item))).getD .monday

/-- The numbers that items start with; items without a number are dropped. -/
def readPositions : List (List Char) → Except NumeralError (List Int)
  | [] => .ok []
  | item :: rest => do
    let position ← leadingInteger item
    let positions ← readPositions rest
    return position.toList ++ positions

end Recurrence
