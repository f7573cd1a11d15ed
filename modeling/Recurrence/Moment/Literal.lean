import Recurrence.Iso.Literal
import Recurrence.Moment.Conversion
import Recurrence.Moment.Error
import Recurrence.Text.Numeral

namespace Recurrence

open Text (ofDigits strip takeDigits)

/-- The number that `count` digits at the start of a text write, and what follows them. -/
def takeNumber (count : Nat) (text : List Char) : Option (Nat × List Char) :=
  (takeDigits count text).map fun (group, rest) => (ofDigits group, rest)

/-- The numbers of the pairs of digits at the start of a text, at most `count`. -/
def takePairs : (count : Nat) → List Char → List Nat
  | 0, _ => []
  | count + 1, text =>
    match takeNumber 2 text with
    | some (number, rest) => number :: takePairs count rest
    | none => []

/-- The parts of a compact civil time. Groups that are missing are 0. -/
structure CompactFields where
  year : Nat
  month : Nat
  day : Nat
  hour : Nat
  minute : Nat
  second : Nat
deriving DecidableEq, Repr

/-- Reads the parts of a compact civil time. -/
def CompactFields.read? (text : List Char) : Option CompactFields := do
  let (year, rest) ← takeNumber 4 text
  let (month, rest) ← takeNumber 2 rest
  let (day, rest) ← takeNumber 2 rest
  let groups :=
    match rest with
    | 'T' :: time => takePairs 3 time
    | _ => []
  return ⟨year, month, day, groups.getD 0 0, groups.getD 1 0, groups.getD 2 0⟩

/-- What stands in for fields of a time of day that are missing or zero. -/
structure ClockDefaults where
  hour : Int
  minute : Int
  second : Int
deriving DecidableEq, Repr

namespace ClockDefaults

/-- Midnight: nothing is replaced. -/
def midnight : ClockDefaults := ⟨0, 0, 0⟩

/-- The last second of the day. -/
def endOfDay : ClockDefaults := ⟨23, 59, 59⟩

/-- A field, or its default if it is zero. A negative default is out of range, like one from `limit` on. -/
def choose (limit field : Nat) (default : Int) : Nat :=
  if field = 0 then (if default < 0 then limit else default.toNat) else field

/-- Whether a field holds the number that it gets, in its range or not: fields have 32 bits, and only a
    default can be too large for them. -/
def holds (field : Nat) (default : Int) : Bool :=
  decide (field ≠ 0) || decide (-2147483648 ≤ default ∧ default ≤ 2147483647)

/-- Whether the fields of a compact literal hold all defaults that they get. -/
def fit (defaults : ClockDefaults) (fields : CompactFields) : Bool :=
  holds fields.hour defaults.hour && holds fields.minute defaults.minute &&
    holds fields.second defaults.second

end ClockDefaults

/-- The civil time of a compact literal: `YYYYMMDD`, then a `T` and up to three pairs of digits. What follows is
    ignored. -/
def readCompact (text : String) (defaults : ClockDefaults) : Except TimeError Civil :=
  match CompactFields.read? text.toList with
  | none => .error (.civilUnreadable (.text text))
  | some fields =>
    (Civil.ofFields fields.year fields.month fields.day
      (ClockDefaults.choose 24 fields.hour defaults.hour)
      (ClockDefaults.choose 60 fields.minute defaults.minute)
      (ClockDefaults.choose 60 fields.second defaults.second) 0).mapError (.civilInvalid text)

/-- Why a value gives no civil time: it is no compact literal of one, or a field does not hold its default. -/
inductive CompactError where
  | literal (error : TimeError)
  | defaultTooLarge

/-- The civil time of a value that should be a compact literal. Only a literal with fields gets defaults, and
    all of them are there before the first is compared with its range. -/
def compactOf (value : Value) (defaults : ClockDefaults) : Except CompactError Civil :=
  match value with
  | .text text =>
    if (CompactFields.read? text.toList).all defaults.fit then
      (readCompact text defaults).mapError .literal
    else .error .defaultTooLarge
  | value => .error (.literal (.civilUnreadable value))

/-- Why no instant was read: the literal is wrong, or the instant lies outside the calendar of universal
    time. -/
inductive InstantError where
  | literal (error : TimeError)
  | calendar (error : CalendarError)

/-- The wording of an error. -/
def InstantError.message : InstantError → String
  | .literal error => error.message
  | .calendar error => error.message

/-- The instant of an ISO 8601 literal, as a civil time of universal time. Without an offset the literal
    is taken as universal time. -/
def readInstant (text : String) : Except InstantError Civil :=
  match Iso.readMoment text.toList with
  | .error cause => .error (.literal (.instantUnreadable text cause))
  | .ok moment => moment.toUtc.mapError .calendar

/-- Whether a reference time has a date: it holds a `T`, or a dash near its start. -/
def hasDate (text : List Char) : Bool := text.contains 'T' || (text.take 8).contains '-'

/-- The time of day of a reference time, to the second: an ISO 8601 literal, or the time of day of one. Its offset
    plays no part. -/
def readWallClock (text : String) : Except TimeError TimeOfDay :=
  let body := strip text.toList
  if body = [] then .error (.clockInvalid (.text text))
  else
    let time :=
      if hasDate body then (Iso.readMoment body).map (·.civil.time) else Iso.readTime body
    match time with
    | .ok time => .ok time.wholeSecond
    | .error cause => .error (.clockUnreadable text cause)

/-- The time of day of a value that should be a reference time. -/
def wallClockOf (value : Value) : Except TimeError TimeOfDay :=
  match value with
  | .text text => readWallClock text
  | value => .error (.clockInvalid value)

end Recurrence
