import Recurrence.Iso.Clock
import Recurrence.Moment.Basic

namespace Recurrence

namespace Moment

open Iso (digits)

/-- A group of digits after a mark. -/
def marked (mark : Char) (count : Nat) : List Char → Except Iso.Error (Nat × List Char)
  | c :: rest => if c = mark then digits count rest else .error .leftover
  | [] => .error .leftover

/-- An offset that takes up the whole text. -/
def writtenOffset : List Char → Except Iso.Error Int
  | sign :: rest => do
    let (hours, rest) ← digits 2 rest
    let (minutes, rest) ← marked ':' 2 rest
    let (seconds, rest) ← if rest = [] then pure (0, []) else marked ':' 2 rest
    let amount : Int := (hours * 60 + minutes) * 60 + seconds
    if rest ≠ [] then .error .leftover
    else if sign = '-' then .ok (-amount)
    else if sign = '+' then .ok amount
    else .error .offsetSign
  | [] => .error .offsetLength

/-- The moment with a written form. -/
def ofIso (text : String) : Except Iso.Error Moment := do
  let (year, rest) ← digits 4 text.toList
  let (month, rest) ← marked '-' 2 rest
  let (day, rest) ← marked '-' 2 rest
  let (hour, rest) ← marked 'T' 2 rest
  let (minute, rest) ← marked ':' 2 rest
  let (second, rest) ← marked ':' 2 rest
  let (micro, rest) := Iso.readFraction rest
  let civil ← (Civil.ofFields year month day hour minute second micro).mapError Iso.Error.civil
  if rest = [] then return ⟨civil, .floating, false⟩
  else
    let offset ← writtenOffset rest
    return ⟨civil, .fixed offset, false⟩

end Moment

end Recurrence
