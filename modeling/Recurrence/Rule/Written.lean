import Recurrence.Rule.Basic
import Recurrence.Moment.Conversion
import Recurrence.Text.Digit

namespace Recurrence

open Text (padded)

/-- A civil time of universal time in compact form. The year is written with as many digits as it has. -/
def Civil.compact (civil : Civil) : String :=
  toString civil.date.year ++ padded 2 civil.date.month ++ padded 2 civil.date.day ++ "T" ++
    padded 2 civil.time.hour ++ padded 2 civil.time.minute ++ padded 2 civil.time.second ++ "Z"

namespace Rule

/-- The written form: frequency, interval, count and bound, in this order, and of these only what is set. It fails
    if the bound has no civil time of universal time. -/
def written (rule : Rule) : Except CalendarError String := do
  let bound ← match rule.bound with
    | some moment => do
      let civil ← moment.toUtc
      pure [s!"UNTIL={civil.compact}"]
    | none => pure []
  let interval := rule.interval.toList.map fun interval => s!"INTERVAL={interval.val}"
  let count := rule.count.toList.map fun count => s!"COUNT={count.val}"
  return "RRULE:" ++
    ";".intercalate (s!"FREQ={rule.frequency.token}" :: (interval ++ count ++ bound))

end Rule

end Recurrence
