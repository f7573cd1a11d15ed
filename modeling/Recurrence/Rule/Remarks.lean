import Recurrence.Log.Notice
import Recurrence.Rule.Plain

namespace Recurrence

namespace Segment

/-- What is said of a segment's value in any rule text. -/
def remark? (segment : Segment) : Option Notice :=
  match segment.key with
  | .frequency =>
    if (Frequency.ofToken? segment.text).isSome then none
    else some (.frequencyIgnored segment.text)
  | .interval =>
    match readPositive segment.value with
    | .ok none => some (.intervalIgnored segment.text)
    | _ => none
  | .count =>
    match readPositive segment.value with
    | .ok none => some (.countIgnored segment.text)
    | _ => none
  | .bound | .weekStart | .weekdays | .positions => none

/-- What is said of a segment's value in zoned text, where a bound may be ignored too. -/
def zonedRemark? (segment : Segment) : Option Notice :=
  match segment.key with
  | .bound =>
    match readCompact segment.text .endOfDay with
    | .ok _ => none
    | .error cause => some (.boundIgnored segment.text cause)
  | _ => segment.remark?

/-- Whether the segment holds no numeral that is too long. -/
def isReadable (segment : Segment) : Bool := (Rule.withSegment {} segment).toBool

end Segment

namespace Rule

/-- What is reported while zoned text is read. -/
def zonedRemarks (text : String) : List Notice :=
  if text.isEmpty then []
  else
    match StartDeclaration.find? text.toList with
    | none => [.startMissing]
    | some declaration =>
      match ruleBody? text.toList with
      | none => [.bodyMissing]
      | some body =>
        match readCompact declaration.literal .midnight with
        | .error cause => [.startInvalid declaration.literal cause]
        | .ok _ =>
          ((Segment.readAll body).takeWhile Segment.isReadable).filterMap Segment.zonedRemark?

/-- What is reported while a value is read that should be zoned text. -/
def zonedValueRemarks : Value → List Notice
  | .text text => zonedRemarks text
  | _ => []

/-- Whether plain text can be read up to and with a segment. -/
def plainReadable (segment : Segment) : Bool := (PlainDraft.withSegment {} segment).toBool

/-- What is reported while plain text is read: remarks on segments, and last that the reading failed, if
    it failed for another reason than a missing declaration or frequency. -/
def plainRemarks (text : String) : List Notice :=
  let body := ((Text.after? "RRULE:".toList text.toList).map Segment.readAll).getD []
  let remarks := (body.takeWhile plainReadable).filterMap Segment.remark?
  if body.all plainReadable then remarks else remarks ++ [.plainFailed (.text text)]

end Rule

end Recurrence
