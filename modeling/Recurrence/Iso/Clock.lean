import Recurrence.Iso.Basic

namespace Recurrence.Iso

/-- Fields of a time of day that need not exist; the offset is in seconds. -/
structure ClockFields where
  hour : Nat
  minute : Nat
  second : Nat
  micro : Nat
  offset : Option Int
deriving DecidableEq, Repr

/-- Whether an offset may begin here. -/
def isOffsetMark (c : Char) : Bool := c == '-' || c == '+' || c == 'Z' || c == 'z'

/-- Whether the digit groups are over: at the end of the text and where an offset begins. -/
def atEnd : List Char → Bool
  | [] => true
  | c :: _ => isOffsetMark c

/-- An offset: a `Z`, or a sign, hours and minutes, with or without a colon. -/
def readOffset (text : List Char) : Except Error Int :=
  if text = ['Z'] ∨ text = ['z'] then .ok 0
  else if text.length ≠ 3 ∧ text.length ≠ 5 ∧ text.length ≠ 6 then .error .offsetLength
  else
    match text with
    | sign :: rest =>
      if sign = '+' ∨ sign = '-' then do
        let (hours, rest) ← digits 2 rest
        let minutes ←
          if rest = [] then pure 0
          else
            let rest := if rest.head? = some ':' then rest.drop 1 else rest
            if rest.length = 2 then do
              let (minutes, _) ← digits 2 rest
              pure minutes
            else .error .offsetMinutes
        if 59 < minutes then .error .offsetMinutes
        else if 23 < hours then .error .offsetHours
        else
          let seconds : Int := (hours * 60 + minutes) * 60
          .ok (if sign = '-' then -seconds else seconds)
      else .error .offsetSign
    | [] => .error .offsetLength

/-- Splits off a colon; the first part says whether there was one. -/
def takeColon : List Char → Bool × List Char
  | ':' :: rest => (true, rest)
  | text => (false, text)

/-- Hour, minute and second with what follows them. Missing groups are 0; a colon before the minute
    asks for one before the second. -/
def readGroups (text : List Char) : Except Error ((Nat × Nat × Nat) × List Char) :=
  if atEnd text then .ok ((0, 0, 0), text)
  else do
    let (hour, rest) ← digits 2 text
    if atEnd rest then .ok ((hour, 0, 0), rest)
    else
      let (colon, rest) := takeColon rest
      let (minute, rest) ← digits 2 rest
      if atEnd rest then .ok ((hour, minute, 0), rest)
      else
        let (again, rest) := if colon then takeColon rest else (false, rest)
        if colon = again then do
          let (second, rest) ← digits 2 rest
          .ok ((hour, minute, second), rest)
        else .error .mixedColons

/-- A fraction of a second in microseconds, smaller parts cut off, with what follows it. -/
def readFraction (text : List Char) : Nat × List Char :=
  match text with
  | mark :: rest =>
    let digits := rest.takeWhile fun c => (Text.latinDigit? c).isSome
    if (mark = '.' ∨ mark = ',') ∧ digits ≠ [] then
      let kept := digits.take 6
      let micro := (number? (kept ++ List.replicate (6 - kept.length) '0')).getD 0
      (micro, rest.drop digits.length)
    else (0, text)
  | [] => (0, text)

/-- A time of day that takes up the whole text. -/
def readClock (text : List Char) : Except Error ClockFields :=
  if text.length < 2 then .error .timeTooShort
  else do
    let ((hour, minute, second), rest) ← readGroups text
    let (micro, rest) := readFraction rest
    let offset ←
      if rest = [] then pure none
      else if atEnd rest then (readOffset rest).map some
      else .error .leftover
    if hour = 24 ∧ (minute ≠ 0 ∨ second ≠ 0 ∨ micro ≠ 0) then .error .pastMidnight
    else .ok ⟨hour, minute, second, micro, offset⟩

end Recurrence.Iso
