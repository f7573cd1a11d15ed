import Recurrence.Rule.Basic

namespace Recurrence

/-- Days from a weekday forward to the next `target`, none if it is the same. -/
def Weekday.daysTo (day target : Weekday) : Nat := (target.number + 7 - day.number) % 7

namespace Moment

/-- Midnight of a date in the frame of a moment. -/
def atMidnightOf (moment : Moment) (date : Date) : Moment :=
  ⟨⟨date, .midnight⟩, moment.frame, false⟩

/-- Midnight of the `position`-th such weekday of the moment's month; -1 stands for the last one. It fails
    if the day that a position counts to lies past the end of the calendar. -/
def nthWeekday (moment : Moment) (day : Weekday) (position : Int) :
    Except CalendarError (Option Moment) :=
  if position = -1 then do
    let last := moment.civil.date.lastOfMonth
    let date ← last.addDays (-(day.daysTo last.weekday : Int))
    return some (moment.atMidnightOf date)
  else if 0 < position then do
    let first := moment.civil.date.firstOfMonth
    let date ← first.addDays (first.weekday.daysTo day + 7 * (position - 1))
    return if date.year = first.year ∧ date.month = first.month then
        some (moment.atMidnightOf date)
      else none
  else .ok none

end Moment

namespace Rule

/-- The place that the cursor moves to. A weekly rule with weekdays is walked day by day. -/
def advance (rule : Rule) (cursor : Moment) : Except CalendarError Moment :=
  if rule.usesWeekdays then cursor.shift .days 1
  else cursor.shift rule.frequency.unit rule.effectiveInterval

/-- The occurrence that belongs to the cursor's place. A weekly rule with weekdays tests the place, a monthly rule
    with weekdays and positions picks one day of the place's month, and every other rule occurs at the place. -/
def candidate (rule : Rule) (cursor : Moment) : Except CalendarError (Option Moment) :=
  if rule.usesWeekdays then
    .ok (if cursor.civil.date.weekday ∈ rule.weekdays then some cursor else none)
  else if rule.usesNthWeekday then
    match rule.weekdays, rule.positions with
    | day :: _, position :: _ => cursor.nthWeekday day position
    | _, _ => .ok none
  else .ok (some cursor)

end Rule

end Recurrence
