import Recurrence.Calendar.Civil
import Recurrence.Text.Quoted
import Recurrence.Text.Digit

namespace Recurrence.Iso

/-- Why a text is no ISO 8601 literal. -/
inductive Error where
  | notAscii
  | tooShort
  /-- A group of so many digits was expected where this text stands. -/
  | digits (count : Nat) (found : String)
  | ordinalMissing
  | ordinalRange (day year : Nat)
  | weekRange (week : Nat)
  | weekdayRange (day : Nat)
  | mixedDashes
  | timeTooShort
  | mixedColons
  | leftover
  /-- Hour 24 is the end of a day and nothing after it. -/
  | pastMidnight
  | offsetLength
  | offsetSign
  | offsetMinutes
  | offsetHours
  | civil (cause : CivilError)
  | calendar (cause : CalendarError)
deriving DecidableEq, Repr

/-- The wording of an error. -/
def Error.message : Error → String
  | .notAscii => "ISO-8601 strings should contain only ASCII characters"
  | .tooShort => "ISO string too short"
  | .digits count found => s!"Expected {count} digits, got {Text.quoted found}"
  | .ordinalMissing => "Invalid ordinal day"
  | .ordinalRange day year => s!"Invalid ordinal day {day} for year {year}"
  | .weekRange week => s!"Invalid week: {week}"
  | .weekdayRange day => s!"Invalid weekday: {day}"
  | .mixedDashes => "Inconsistent use of dash separator"
  | .timeTooShort => "ISO time too short"
  | .mixedColons => "Inconsistent use of colon separator"
  | .leftover => "Unused components in ISO string"
  | .pastMidnight => "Hour may only be 24 at 24:00:00.000"
  | .offsetLength => "Time zone offset must be 1, 3, 5 or 6 characters"
  | .offsetSign => "Time zone offset requires sign"
  | .offsetMinutes => "Invalid minutes in time zone offset"
  | .offsetHours => "Invalid hours in time zone offset"
  | .civil cause => cause.message
  | .calendar cause => cause.message

/-- The number that a list of Latin digits writes, if it holds nothing else. -/
def number? (digits : List Char) : Option Nat :=
  digits.foldlM (fun number c => (Text.latinDigit? c).map (number * 10 + ·)) 0

/-- A group of exactly `count` digits at the start of a text, and what follows it. -/
def digits (count : Nat) (text : List Char) : Except Error (Nat × List Char) :=
  let group := text.take count
  match number? group with
  | some number =>
    if group.length = count then .ok (number, text.drop count)
    else .error (.digits count (String.ofList group))
  | none => .error (.digits count (String.ofList group))

end Recurrence.Iso
