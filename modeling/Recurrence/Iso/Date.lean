import Recurrence.Iso.Basic

namespace Recurrence.Iso

/-- Fields of a date that need not exist. -/
structure DateFields where
  year : Nat
  month : Nat
  day : Nat
deriving DecidableEq, Repr

/-- The fields of an existing date. -/
def DateFields.ofDate (date : Date) : DateFields := ⟨date.year, date.month, date.day⟩

/-- Splits off a dash; the first part says whether there was one. -/
def takeDash : List Char → Bool × List Char
  | '-' :: rest => (true, rest)
  | text => (false, text)

/-- The month and day of a calendar date after its year. A month alone needs a dash before it, because six
    digits could be read in another way. -/
def calendarDate (year : Nat) (text : List Char) : Except Error (DateFields × List Char) :=
  if text = [] then .ok (⟨year, 1, 1⟩, [])
  else do
    let (dashed, rest) := takeDash text
    let (month, rest) ← digits 2 rest
    if rest = [] then
      if dashed then .ok (⟨year, month, 1⟩, []) else .error .tooShort
    else
      let (again, rest) := if dashed then takeDash rest else (false, rest)
      if dashed = again then do
        let (day, rest) ← digits 2 rest
        .ok (⟨year, month, day⟩, rest)
      else .error .mixedDashes

/-- The date a number of days after the start of a year, counted from 0. -/
def dayOfYear (year : Nat) (index : Int) : Except Error Date := do
  let first ← (Date.ofFields year 1 1).mapError .civil
  match Date.ofDayNumber? (first.dayNumber + index) with
  | some date => .ok date
  | none => .error (.calendar .dateOutOfRange)

/-- Days from the start of a year to the Monday of its first week, which is the week of January 4. -/
def firstMonday (year : Nat) : Int :=
  3 - (((daysBeforeYear year : Int) + 3) % 7)

/-- A week and a day of the week after the year and the letter of a week date. -/
def weekDate (year : Nat) (dashed : Bool) (text : List Char) : Except Error (Date × List Char) := do
  let (week, rest) ← digits 2 text
  let (day, rest) ←
    if rest = [] then pure (1, [])
    else
      let (again, after) := takeDash rest
      if dashed = again then digits 1 after else .error .mixedDashes
  if 1 ≤ week ∧ week ≤ 53 then
    if 1 ≤ day ∧ day ≤ 7 then do
      let date ← dayOfYear year (firstMonday year + 7 * ((week : Int) - 1) + (day - 1))
      return (date, rest)
    else .error (.weekdayRange day)
  else .error (.weekRange week)

/-- The day of the year after the year of an ordinal date. -/
def ordinalDate (year : Nat) (text : List Char) : Except Error (Date × List Char) := do
  if text.length < 3 then .error .ordinalMissing
  else
    let (day, rest) ← digits 3 text
    if 1 ≤ day ∧ day ≤ daysInYear year then
      let date ← dayOfYear year ((day : Int) - 1)
      return (date, rest)
    else .error (.ordinalRange day year)

/-- A week date or an ordinal date. -/
def rarerDate (year : Nat) (text : List Char) : Except Error (Date × List Char) :=
  let (dashed, rest) := takeDash text
  match rest with
  | 'W' :: week => weekDate year dashed week
  | rest => ordinalDate year rest

/-- A date at the start of a text, and what follows it. What is no calendar date is read as one of the
    rarer kinds, and the error is then theirs. -/
def readDate (text : List Char) : Except Error (DateFields × List Char) :=
  if text.length < 4 then .error .tooShort
  else do
    let (year, rest) ← digits 4 text
    match calendarDate year rest with
    | .ok found => .ok found
    | .error _ => do
      let (date, rest) ← rarerDate year rest
      return (.ofDate date, rest)

end Recurrence.Iso
