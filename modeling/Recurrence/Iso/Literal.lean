import Recurrence.Iso.Clock
import Recurrence.Iso.Date
import Recurrence.Moment.Basic

namespace Recurrence.Iso

/-- Texts of the format hold only ASCII characters. -/
def ascii (text : List Char) : Except Error (List Char) :=
  if text.all (·.toNat < 128) then .ok text else .error .notAscii

/-- The frame that an offset asks for. -/
def frameOf : Option Int → Frame
  | none => .floating
  | some offset => .fixed offset

/-- The moment that fields of a date and of a time of day mean. Hour 24 is midnight at the end of the day. -/
def momentOf (date : DateFields) (clock : ClockFields) : Except Error Moment := do
  let hour := if clock.hour = 24 then 0 else clock.hour
  let civil ← (Civil.ofFields date.year date.month date.day hour clock.minute clock.second
    clock.micro).mapError .civil
  let civil ← if clock.hour = 24 then (civil.shift .days 1).mapError .calendar else pure civil
  return ⟨civil, frameOf clock.offset, false⟩

/-- A date and a time of day with any one character between them, or a date alone, which means the start of the
    day. -/
def readMoment (text : List Char) : Except Error Moment := do
  let text ← ascii text
  let (date, rest) ← readDate text
  match rest with
  | [] => momentOf date ⟨0, 0, 0, 0, none⟩
  | _ :: time => do
    let clock ← readClock time
    momentOf date clock

/-- A time of day alone, whose offset is read and dropped. -/
def readTime (text : List Char) : Except Error TimeOfDay := do
  let text ← ascii text
  let clock ← readClock text
  let hour := if clock.hour = 24 then 0 else clock.hour
  (TimeOfDay.ofFields hour clock.minute clock.second clock.micro).mapError .civil

end Recurrence.Iso
