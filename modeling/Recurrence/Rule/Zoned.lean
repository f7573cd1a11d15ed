import Recurrence.Rule.Segment

namespace Recurrence

open Text (NumeralError after? searchFirst takeDigits)

/-- A start declaration as it is written. -/
structure StartDeclaration where
  zone : String
  literal : String
deriving DecidableEq, Repr

/-- The start declaration at the start of a text. -/
def StartDeclaration.here? (text : List Char) : Option StartDeclaration := do
  let rest ← after? "DTSTART;TZID=".toList text
  let (zone, rest) := rest.span (· != ':')
  if zone.isEmpty then none
  else
    let rest ← after? ":".toList rest
    let (date, rest) ← takeDigits 8 rest
    let rest ← after? "T".toList rest
    let (time, _) ← takeDigits 6 rest
    return ⟨String.ofList zone, String.ofList (date ++ 'T' :: time)⟩

/-- The first start declaration of a text. -/
def StartDeclaration.find? (text : List Char) : Option StartDeclaration :=
  searchFirst StartDeclaration.here? text

/-- The body of the rule declaration at the start of a text; it is not empty. -/
def ruleBodyHere? (text : List Char) : Option (List Char) := do
  let rest ← after? "RRULE:".toList text
  let body := rest.takeWhile (· != '\n')
  if body.isEmpty then none else return body

/-- The body of the first rule declaration of a text. -/
def ruleBody? (text : List Char) : Option (List Char) := searchFirst ruleBodyHere? text

namespace Rule

/-- What a segment of zoned text changes. Tokens that are not known leave things as they are. -/
def withSegment (rule : Rule) (segment : Segment) : Except NumeralError Rule :=
  match segment.key with
  | .frequency =>
    .ok { rule with frequency := (Frequency.ofToken? segment.text).getD rule.frequency }
  | .interval => do
    let interval ← readInterval segment.value
    return { rule with interval := some interval }
  | .bound =>
    match readCompact segment.text .endOfDay with
    | .ok civil => .ok { rule with bound := some (.utc civil) }
    | .error _ => .ok rule
  | .weekStart =>
    match Weekday.ofToken? segment.text with
    | some day => .ok { rule with weekStart := some day }
    | none => .ok rule
  | .weekdays => .ok { rule with byWeekday := some (readWeekdays segment.items) }
  | .positions => do
    let positions ← readPositions segment.items
    return { rule with bySetPosition := if positions.isEmpty then none else some positions }
  | .count => do
    let count ← readPositive segment.value
    return { rule with count }

/-- The rule before its first segment: daily, with weeks from Monday. -/
def opening (zone : String) (start : Civil) : Rule :=
  { frequency := .daily
    start := some (.utc start)
    declaredZone := some zone
    weekStart := some .monday }

/-- The rule of zoned text, if the text has both declarations: `DTSTART;TZID=zone:YYYYMMDDTHHMMSS`, whose civil
    time is read as universal, and `RRULE:` with a body up to the end of its line. A segment that cannot be
    understood is ignored or replaced by a default; only a numeral that is too long to be read makes the reading
    fail. -/
def ofZonedText (text : String) : Except NumeralError (Option Rule) :=
  match StartDeclaration.find? text.toList, ruleBody? text.toList with
  | some declaration, some body =>
    match readCompact declaration.literal .midnight with
    | .ok start =>
      ((Segment.readAll body).foldlM withSegment (opening declaration.zone start)).map some
    | .error _ => .ok none
  | _, _ => .ok none

/-- The rule of a value that should be zoned text. -/
def ofZonedValue (value : Value) : Except NumeralError (Option Rule) :=
  match value with
  | .text text => ofZonedText text
  | _ => .ok none

end Rule

end Recurrence
