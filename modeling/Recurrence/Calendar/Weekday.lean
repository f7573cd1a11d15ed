import Recurrence.Calendar.Date

namespace Recurrence

/-- A day of the week. -/
inductive Weekday where
  | sunday
  | monday
  | tuesday
  | wednesday
  | thursday
  | friday
  | saturday
deriving DecidableEq, Repr

namespace Weekday

/-- All weekdays in the order of their numbers. -/
def all : List Weekday :=
  [.sunday, .monday, .tuesday, .wednesday, .thursday, .friday, .saturday]

/-- Sunday is 0 and Saturday is 6. -/
def number : Weekday → Nat
  | .sunday => 0
  | .monday => 1
  | .tuesday => 2
  | .wednesday => 3
  | .thursday => 4
  | .friday => 5
  | .saturday => 6

/-- The weekday with a number, taken modulo seven. -/
def ofNumber (n : Nat) : Weekday :=
  match n % 7 with
  | 0 => .sunday
  | 1 => .monday
  | 2 => .tuesday
  | 3 => .wednesday
  | 4 => .thursday
  | 5 => .friday
  | _ => .saturday

/-- The two-letter token of rule text. -/
def token : Weekday → String
  | .sunday => "SU"
  | .monday => "MO"
  | .tuesday => "TU"
  | .wednesday => "WE"
  | .thursday => "TH"
  | .friday => "FR"
  | .saturday => "SA"

/-- The weekday that a token names; tokens are upper case. -/
def ofToken? (text : String) : Option Weekday :=
  all.find? (·.token == text)

@[simp] theorem ofNumber_number (day : Weekday) : ofNumber day.number = day := by
  cases day <;> rfl

@[simp] theorem ofToken?_token (day : Weekday) : ofToken? day.token = some day := by
  cases day <;> decide +kernel

theorem number_lt (day : Weekday) : day.number < 7 := by
  cases day <;> decide

end Weekday

/-- Weekday of a date, read off its day number: the first day of year 1 is a Monday. -/
def Date.weekday (date : Date) : Weekday := Weekday.ofNumber date.dayNumber

end Recurrence
