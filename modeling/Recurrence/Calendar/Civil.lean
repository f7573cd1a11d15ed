import Recurrence.Calendar.Weekday

namespace Recurrence

/-- A time of day on a clock of 24 hours. -/
structure TimeOfDay where
  hour : Nat
  minute : Nat
  second : Nat
  micro : Nat
  hour_lt : hour < 24
  minute_lt : minute < 60
  second_lt : second < 60
  micro_lt : micro < 1000000
deriving DecidableEq

namespace TimeOfDay

/-- The start of the day. -/
def midnight : TimeOfDay :=
  ⟨0, 0, 0, 0, by decide, by decide, by decide, by decide⟩

/-- The time of day with the given fields. A fraction is held below a second by its readers, so only
    hour, minute and second can be blamed. -/
def ofFields (hour minute second micro : Nat) : Except CivilError TimeOfDay :=
  if hh : hour < 24 then
    if hm : minute < 60 then
      if hs : second < 60 then
        .ok ⟨hour, minute, second, micro % 1000000, hh, hm, hs, Nat.mod_lt _ (by decide)⟩
      else .error .second
    else .error .minute
  else .error .hour

/-- Seconds since midnight. -/
def secondOfDay (time : TimeOfDay) : Nat :=
  (time.hour * 60 + time.minute) * 60 + time.second

/-- Microseconds since midnight. -/
def ticks (time : TimeOfDay) : Nat :=
  time.secondOfDay * 1000000 + time.micro

/-- The time of day a number of microseconds after midnight, taken within one day. -/
def ofTicks (ticks : Nat) : TimeOfDay where
  hour := ticks / 3600000000 % 24
  minute := ticks / 60000000 % 60
  second := ticks / 1000000 % 60
  micro := ticks % 1000000
  hour_lt := Nat.mod_lt _ (by decide)
  minute_lt := Nat.mod_lt _ (by decide)
  second_lt := Nat.mod_lt _ (by decide)
  micro_lt := Nat.mod_lt _ (by decide)

/-- The time with its fraction of a second dropped. -/
def wholeSecond (time : TimeOfDay) : TimeOfDay :=
  { time with micro := 0, micro_lt := by decide }

@[ext] theorem ext {a b : TimeOfDay} (hhour : a.hour = b.hour) (hminute : a.minute = b.minute)
    (hsecond : a.second = b.second) (hmicro : a.micro = b.micro) : a = b := by
  cases a; cases b; simp_all

theorem ofTicks_ticks (time : TimeOfDay) : ofTicks time.ticks = time := by
  have := time.hour_lt
  have := time.minute_lt
  have := time.second_lt
  have := time.micro_lt
  ext <;> simp only [ofTicks, ticks, secondOfDay] <;> omega

theorem ticks_lt (time : TimeOfDay) : time.ticks < 86400000000 := by
  have := time.hour_lt
  have := time.minute_lt
  have := time.second_lt
  have := time.micro_lt
  simp only [ticks, secondOfDay]
  omega

end TimeOfDay

/-- A date and a time of day, as a wall calendar and a wall clock show them, without an offset. Its tick
    determines it, and order and arithmetic go through ticks. -/
structure Civil where
  date : Date
  time : TimeOfDay
deriving DecidableEq

/-- A step of calendar arithmetic that leaves the calendar. -/
inductive CalendarError where
  /-- A count of days or microseconds runs past either end of the calendar. -/
  | dateOutOfRange
  /-- A step of months or years ends in a year that the calendar does not have. -/
  | yearOutOfRange (year : Int)
  /-- A step of months or years ends in a year that does not even fit a machine word of 32 bits. -/
  | yearUnrepresentable
deriving DecidableEq, Repr

/-- The wording of a calendar error. -/
def CalendarError.message : CalendarError → String
  | .dateOutOfRange => "date value out of range"
  | .yearOutOfRange year => s!"year {year} is out of range"
  | .yearUnrepresentable => "year does not fit 32 bits"

namespace Civil

/-- The civil time with the given fields. -/
def ofFields (year month day hour minute second micro : Nat) : Except CivilError Civil := do
  let date ← Date.ofFields year month day
  let time ← TimeOfDay.ofFields hour minute second micro
  return ⟨date, time⟩

/-- Microseconds in a day. -/
def ticksPerDay : Nat := 86400000000

/-- Place of a civil time on the line of microseconds. -/
def ticks (civil : Civil) : Nat :=
  civil.date.dayNumber * ticksPerDay + civil.time.ticks

/-- The civil time at a tick, if the calendar reaches that far. -/
def ofTicks (tick : Int) : Except CalendarError Civil :=
  match Date.ofDayNumber? (tick / ticksPerDay) with
  | some date => .ok ⟨date, TimeOfDay.ofTicks (tick % ticksPerDay).toNat⟩
  | none => .error .dateOutOfRange

/-- The civil time that many microseconds later. -/
def addTicks (civil : Civil) (amount : Int) : Except CalendarError Civil :=
  ofTicks (civil.ticks + amount)

/-- The civil time that many seconds later. -/
def addSeconds (civil : Civil) (amount : Int) : Except CalendarError Civil :=
  civil.addTicks (amount * 1000000)

/-- Day number of the first day of 1970. -/
def epochDay : Nat := 719163

/-- Seconds from the start of 1970, the fraction of a second dropped. -/
def epochSecond (civil : Civil) : Int :=
  ((civil.date.dayNumber : Int) - epochDay) * 86400 + civil.time.secondOfDay

/-- Order along the line of microseconds. -/
instance : LT Civil := ⟨fun a b => a.ticks < b.ticks⟩

instance : LE Civil := ⟨fun a b => a.ticks ≤ b.ticks⟩

instance (a b : Civil) : Decidable (a < b) := inferInstanceAs (Decidable (a.ticks < b.ticks))

instance (a b : Civil) : Decidable (a ≤ b) := inferInstanceAs (Decidable (a.ticks ≤ b.ticks))

end Civil

end Recurrence
