import Recurrence.Rule.Segment

namespace Recurrence

open Text (NumeralError)

/-- Why a text is no plain rule. -/
inductive PlainError where
  | noText (value : Value)
  | noDeclaration
  | noFrequency
  | numeral (cause : NumeralError)
  | bound (cause : InstantError)

/-- The wording of an error. -/
def PlainError.message : PlainError → String
  | .noText (.foreign (.bytes _)) =>
    "Parse error: startswith first arg must be bytes or a tuple of bytes, not str"
  | .noText value => s!"Parse error: '{value.typeName}' object has no attribute 'startswith'"
  | .noDeclaration => "Invalid RRULE format"
  | .noFrequency => "FREQ is required"
  | .numeral cause => s!"Parse error: {cause.message}"
  | .bound cause => s!"Parse error: {cause.message}"

/-- What has been read of a plain rule. -/
structure PlainDraft where
  frequency : Option Frequency := none
  interval : Option Positive := none
  count : Option Positive := none
  bound : Option Civil := none
deriving DecidableEq

namespace PlainDraft

/-- What a segment of plain text changes. -/
def withSegment (draft : PlainDraft) (segment : Segment) : Except PlainError PlainDraft :=
  match segment.key with
  | .frequency => .ok { draft with frequency := (Frequency.ofToken? segment.text).or draft.frequency }
  | .interval => do
    let interval ← (readInterval segment.value).mapError .numeral
    return { draft with interval := some interval }
  | .count => do
    let count ← (readPositive segment.value).mapError .numeral
    return { draft with count }
  | .bound => do
    let bound ← (readInstant segment.text).mapError .bound
    return { draft with bound := some bound }
  | .weekStart | .weekdays | .positions => .ok draft

/-- The finished rule. -/
def finish (draft : PlainDraft) : Except PlainError Rule :=
  match draft.frequency with
  | some frequency =>
    .ok {
      frequency
      interval := draft.interval
      count := draft.count
      bound := draft.bound.map .utc }
  | none => .error .noFrequency

end PlainDraft

namespace Rule

/-- The rule of plain text: a body after `RRULE:` at the very start, without a start declaration. It needs a
    frequency that is known, and a bound that cannot be read is an error. All other keys are ignored. -/
def ofPlainText (text : String) : Except PlainError Rule :=
  match Text.after? "RRULE:".toList text.toList with
  | none => .error .noDeclaration
  | some body => do
    let draft ← (Segment.readAll body).foldlM PlainDraft.withSegment {}
    draft.finish

/-- The rule of a value that should be plain text. Of a text that is broken nothing is kept, and it counts as one
    without a declaration. -/
def ofPlainValue (value : Value) : Except PlainError Rule :=
  match value with
  | .text text => ofPlainText text
  | .foreign .brokenText => .error .noDeclaration
  | value => .error (.noText value)

end Rule

/-- What the reading of plain text comes to: a rule, or the wording of what is wrong. -/
structure PlainReading where
  valid : Bool
  rule : Option Rule := none
  error : Option String := none

/-- Reads a value that should be plain text. -/
def PlainReading.ofValue (value : Value) : PlainReading :=
  match Rule.ofPlainValue value with
  | .ok rule => { valid := true, rule := some rule }
  | .error error => { valid := false, error := some error.message }

end Recurrence
