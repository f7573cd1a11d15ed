import Recurrence.Moment.Basic

namespace Recurrence

/-- How often a rule recurs. -/
inductive Frequency where
  | daily
  | weekly
  | monthly
  | yearly
deriving DecidableEq, Repr

namespace Frequency

/-- All frequencies. -/
def all : List Frequency := [.daily, .weekly, .monthly, .yearly]

/-- The token of rule text. -/
def token : Frequency → String
  | .daily => "DAILY"
  | .weekly => "WEEKLY"
  | .monthly => "MONTHLY"
  | .yearly => "YEARLY"

/-- The frequency that a token names; tokens are upper case. -/
def ofToken? (text : String) : Option Frequency := all.find? (·.token == text)

/-- The calendar unit of one step. -/
def unit : Frequency → CalendarUnit
  | .daily => .days
  | .weekly => .weeks
  | .monthly => .months
  | .yearly => .years

@[simp] theorem ofToken?_token (frequency : Frequency) : ofToken? frequency.token = some frequency := by
  cases frequency <;> decide +kernel

end Frequency

/-- A number of at least one. -/
abbrev Positive := { number : Nat // 1 ≤ number }

namespace Positive

/-- One. -/
def one : Positive := ⟨1, Nat.zero_lt_one⟩

/-- An integer, if it is at least one. -/
def ofInt? (number : Int) : Option Positive :=
  if h : 1 ≤ number then some ⟨number.toNat, by omega⟩ else none

end Positive

/-- A recurrence rule. The declared zone and the week's first day are kept but decide nothing. -/
structure Rule where
  frequency : Frequency := .daily
  interval : Option Positive := none
  start : Option Moment := none
  declaredZone : Option String := none
  bound : Option Moment := none
  count : Option Positive := none
  weekStart : Option Weekday := none
  byWeekday : Option (List Weekday) := none
  bySetPosition : Option (List Int) := none
deriving DecidableEq

namespace Rule

/-- Units between two steps; one if nothing is given. -/
def effectiveInterval (rule : Rule) : Nat := (rule.interval.map (·.val)).getD 1

/-- The weekdays a rule names; none if nothing is given. -/
def weekdays (rule : Rule) : List Weekday := rule.byWeekday.getD []

/-- The positions a rule names; none if nothing is given. -/
def positions (rule : Rule) : List Int := rule.bySetPosition.getD []

/-- A daily rule is taken to mean whole days. -/
def isAllDay (rule : Rule) : Bool := rule.frequency == .daily

/-- Whether a weekly rule tests each day against its weekdays. -/
def usesWeekdays (rule : Rule) : Bool := rule.frequency == .weekly && !rule.weekdays.isEmpty

/-- Whether a monthly rule picks one weekday of each month by its position. -/
def usesNthWeekday (rule : Rule) : Bool :=
  rule.frequency == .monthly && !rule.weekdays.isEmpty && !rule.positions.isEmpty

end Rule

end Recurrence
