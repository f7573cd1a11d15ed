import Recurrence.Calendar.Civil

namespace Recurrence

/-- A unit of calendar arithmetic. -/
inductive CalendarUnit where
  | days
  | weeks
  | months
  | years
deriving DecidableEq, Repr

namespace CalendarUnit

/-- The name of a unit in requests. -/
def name : CalendarUnit → String
  | .days => "days"
  | .weeks => "weeks"
  | .months => "months"
  | .years => "years"

/-- The unit with a name. -/
def ofName? (text : String) : Option CalendarUnit :=
  [days, weeks, months, years].find? (·.name == text)

end CalendarUnit

/-- Why nothing is shifted: the calendar has no such unit, or the step leaves the calendar. -/
inductive ShiftError where
  | unknownUnit (name : String)
  | calendar (error : CalendarError)
deriving DecidableEq, Repr

/-- The wording of an error. -/
def ShiftError.message : ShiftError → String
  | .unknownUnit name => s!"Unsupported calendar unit: {name}"
  | .calendar error => error.message

namespace Date

/-- The date a number of days later. -/
def addDays (date : Date) (amount : Int) : Except CalendarError Date :=
  match ofDayNumber? (date.dayNumber + amount) with
  | some later => .ok later
  | none => .error .dateOutOfRange

/-- A step of years and months, fewer than a year's of the latter, all of one sign. -/
structure MonthStep where
  years : Int
  months : Int
  months_lt : months.natAbs < 12

namespace MonthStep

/-- An amount of months as whole years and the months left over, both by its size and with its sign. -/
def ofMonths (amount : Int) : MonthStep where
  years := amount.tdiv 12
  months := amount.tmod 12
  months_lt := by
    rw [Int.natAbs_tmod]
    exact Nat.mod_lt _ (by decide)

/-- An amount of years. -/
def ofYears (amount : Int) : MonthStep := ⟨amount, 0, by decide⟩

/-- The years that the months of a step lead past: one after December, one back before January. -/
def carry (step : MonthStep) (month : Nat) : Int :=
  if 12 < month + step.months then 1
  else if month + step.months < 1 then -1
  else 0

/-- The year that a step from a date leads to. -/
def year (step : MonthStep) (date : Date) : Int := date.year + step.years + step.carry date.month

/-- The month of that year. -/
def month (step : MonthStep) (date : Date) : Int :=
  date.month + step.months - 12 * step.carry date.month

theorem month_bounds (step : MonthStep) (date : Date) :
    1 ≤ step.month date ∧ step.month date ≤ 12 := by
  have hlt := step.months_lt
  have hpos := date.month_pos
  have hle := date.month_le
  unfold month carry
  split
  · omega
  · split <;> omega

end MonthStep

/-- The date that a step of years and months leads to, with the day cut to the new month's length. -/
def addStep (date : Date) (step : MonthStep) : Except CalendarError Date :=
  let year := step.year date
  let month := (step.month date).toNat
  if hyear : 1 ≤ year ∧ year ≤ 9999 then
    have hmonth := step.month_bounds date
    .ok {
      year := year.toNat
      month
      day := min date.day (daysInMonth year.toNat month)
      year_pos := by omega
      year_le := by omega
      month_pos := by omega
      month_le := by omega
      day_pos := by
        have := date.day_pos
        have := daysInMonth_ge year.toNat month
        omega
      day_le := Nat.min_le_right _ _ }
  else if -2147483648 ≤ year ∧ year ≤ 2147483647 then .error (.yearOutOfRange year)
  else .error .yearUnrepresentable

/-- The date a number of units later, or how it leaves the calendar. -/
def shift (date : Date) (unit : CalendarUnit) (amount : Int) : Except CalendarError Date :=
  match unit with
  | .days => date.addDays amount
  | .weeks => date.addDays (7 * amount)
  | .months => date.addStep (.ofMonths amount)
  | .years => date.addStep (.ofYears amount)

end Date

/-- A shift moves the date and keeps the time of day. -/
def Civil.shift (civil : Civil) (unit : CalendarUnit) (amount : Int) : Except CalendarError Civil := do
  let date ← civil.date.shift unit amount
  return { civil with date }

end Recurrence
