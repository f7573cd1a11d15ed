namespace Recurrence

/-- Every fourth year is a leap year, but of the century years only every fourth. -/
def isLeapYear (year : Nat) : Bool :=
  year % 4 == 0 && (year % 100 != 0 || year % 400 == 0)

/-- Length of a month; `month` counts from 1. -/
def daysInMonth (year month : Nat) : Nat :=
  if month = 2 then (if isLeapYear year then 29 else 28)
  else if month = 4 ∨ month = 6 ∨ month = 9 ∨ month = 11 then 30
  else 31

theorem daysInMonth_ge (year month : Nat) : 28 ≤ daysInMonth year month := by
  unfold daysInMonth
  split
  · split <;> omega
  · split <;> omega

/-- Length of a year. -/
def daysInYear (year : Nat) : Nat :=
  if isLeapYear year then 366 else 365

/-- Days from the first day of year 1 to the first day of `year`. -/
def daysBeforeYear (year : Nat) : Nat :=
  365 * (year - 1) + (year - 1) / 4 - (year - 1) / 100 + (year - 1) / 400

/-- Days from the first day of the year to the first day of a month. -/
def daysBeforeMonth (year : Nat) : Nat → Nat
  | 0 => 0
  | 1 => 0
  | month + 2 => daysBeforeMonth year (month + 1) + daysInMonth year (month + 1)

/-- A date of the Gregorian calendar, years 1 to 9999. Its day number determines it. -/
structure Date where
  year : Nat
  month : Nat
  day : Nat
  year_pos : 1 ≤ year
  year_le : year ≤ 9999
  month_pos : 1 ≤ month
  month_le : month ≤ 12
  day_pos : 1 ≤ day
  day_le : day ≤ daysInMonth year month
deriving DecidableEq

/-- Why fields are no civil date or time of day; the first field that is out of range is blamed. -/
inductive CivilError where
  | year (value : Nat)
  | month
  | day
  | hour
  | minute
  | second
deriving DecidableEq, Repr

/-- The wording of a civil error. -/
def CivilError.message : CivilError → String
  | .year value => s!"year {value} is out of range"
  | .month => "month must be in 1..12"
  | .day => "day is out of range for month"
  | .hour => "hour must be in 0..23"
  | .minute => "minute must be in 0..59"
  | .second => "second must be in 0..59"

namespace Date

/-- The date with the given fields. -/
def ofFields (year month day : Nat) : Except CivilError Date :=
  if hy : 1 ≤ year ∧ year ≤ 9999 then
    if hm : 1 ≤ month ∧ month ≤ 12 then
      if hd : 1 ≤ day ∧ day ≤ daysInMonth year month then
        .ok ⟨year, month, day, hy.1, hy.2, hm.1, hm.2, hd.1, hd.2⟩
      else .error .day
    else .error .month
  else .error (.year year)

/-- Number of the last date of the calendar, the last day of year 9999. -/
def lastDayNumber : Nat := 3652059

/-- Position in the calendar, 1 for the first day of year 1. -/
def dayNumber (date : Date) : Nat :=
  daysBeforeYear date.year + daysBeforeMonth date.year date.month + date.day

/-- The year that holds the day `index`, counted from 0, and the day's place in it, from 0. A cycle of
    400 years has 146097 days; the last day of a cycle and of a leap year belong to the year
    before them, which is why two quotients are cut at 3. -/
def yearOfIndex (index : Nat) : Nat × Nat :=
  let cycle := index / 146097
  let inCycle := index % 146097
  let century := min (inCycle / 36524) 3
  let inCentury := inCycle - 36524 * century
  let leap := inCentury / 1461
  let inLeap := inCentury % 1461
  let single := min (inLeap / 365) 3
  (400 * cycle + 100 * century + 4 * leap + single + 1, inLeap - 365 * single)

/-- Walks the months of a year from the month `12 - left` on: the month that holds the day `index`,
    counted from 0 from that month's first day, and the day of the month. -/
def monthOfIndex (year : Nat) : (left index : Nat) → Nat × Nat
  | 0, index => (12, index + 1)
  | left + 1, index =>
    if index < daysInMonth year (11 - left) then (11 - left, index + 1)
    else monthOfIndex year left (index - daysInMonth year (11 - left))

/-- The date with the given day number, if the calendar has it. -/
def ofDayNumber? (number : Int) : Option Date :=
  if 1 ≤ number then
    let (year, index) := yearOfIndex (number.toNat - 1)
    let (month, day) := monthOfIndex year 11 index
    (ofFields year month day).toOption
  else none

/-- The first day of the date's month. -/
def firstOfMonth (date : Date) : Date :=
  { date with
    day := 1
    day_pos := Nat.le_refl 1
    day_le := Nat.le_trans (by decide) (daysInMonth_ge date.year date.month) }

/-- The last day of the date's month. -/
def lastOfMonth (date : Date) : Date :=
  { date with
    day := daysInMonth date.year date.month
    day_pos := Nat.le_trans (by decide) (daysInMonth_ge date.year date.month)
    day_le := Nat.le_refl _ }

/-- Number of the date's month, counted over all years. -/
def monthIndex (date : Date) : Nat := 12 * date.year + (date.month - 1)

/-- Order by position in the calendar. -/
instance : LE Date := ⟨fun a b => a.dayNumber ≤ b.dayNumber⟩

instance : LT Date := ⟨fun a b => a.dayNumber < b.dayNumber⟩

end Date

end Recurrence
