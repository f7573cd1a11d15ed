import Recurrence.Moment.Basic
import Recurrence.Text.Digit

namespace Recurrence

open Text (padded)

/-- A date as year, month and day. -/
def Date.iso (date : Date) : String :=
  padded 4 date.year ++ "-" ++ padded 2 date.month ++ "-" ++ padded 2 date.day

/-- A time of day without its fraction. -/
def TimeOfDay.clock (time : TimeOfDay) : String :=
  padded 2 time.hour ++ ":" ++ padded 2 time.minute ++ ":" ++ padded 2 time.second

/-- The fraction of a second with six digits, where there is one. -/
def TimeOfDay.fraction (time : TimeOfDay) : String :=
  if time.micro = 0 then "" else "." ++ padded 6 time.micro

/-- An offset as a sign, hours and minutes; seconds follow only where there are any. -/
def offsetText (offset : Int) : String :=
  let seconds := offset.natAbs
  let sign := if offset < 0 then "-" else "+"
  sign ++ padded 2 (seconds / 3600) ++ ":" ++ padded 2 (seconds / 60 % 60) ++
    if seconds % 60 = 0 then "" else ":" ++ padded 2 (seconds % 60)

namespace Moment

/-- The offset as it is written; a floating moment has none. -/
def offsetSuffix (moment : Moment) : String :=
  (moment.offset?.map offsetText).getD ""

/-- The written form with as much of the fraction as there is. -/
def iso (moment : Moment) : String :=
  moment.civil.date.iso ++ "T" ++ moment.civil.time.clock ++ moment.civil.time.fraction ++
    moment.offsetSuffix

/-- The written form with milliseconds, smaller parts cut off. -/
def render (moment : Moment) : String :=
  moment.civil.date.iso ++ "T" ++ moment.civil.time.clock ++ "." ++
    padded 3 (moment.civil.time.micro / 1000) ++ moment.offsetSuffix

end Moment

end Recurrence
