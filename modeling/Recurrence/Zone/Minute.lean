import Recurrence.Zone.Basic

namespace Recurrence

/-- An entry of a short table: from an instant on, an offset and the part of it that is saving. -/
structure MinuteEntry where
  instant : Int
  offset : Int
  saving : Int
deriving DecidableEq, Repr

/-- A zone read from a short table, entries newest first. Such a table counts instants in 32 bits and offsets in
    whole minutes, and nothing follows its last entry. -/
structure MinuteZone where
  name : String
  origin : Option Origin
  initial : Int
  entries : List MinuteEntry
deriving DecidableEq, Repr

namespace MinuteZone

/-- The earliest and the latest instant that 32 bits count. -/
def firstInstant : Int := -2147483648

/-- The latest instant that 32 bits count. -/
def lastInstant : Int := 2147483647

/-- Seconds rounded to the nearest minute, half a minute up. -/
def wholeMinutes (seconds : Int) : Int := (seconds + 30) / 60 * 60

/-- The first positive difference to a standard phase, or else the last difference tried. -/
def savingAgainst (offset : Int) : (tried : Int) → List (Int × Phase) → Int
  | tried, [] => tried
  | tried, (_, phase) :: later =>
    if phase.daylight then savingAgainst offset tried later
    else if 0 < offset - phase.offset then offset - phase.offset
    else savingAgainst offset (offset - phase.offset) later

/-- How much of a phase's offset is saving: its difference to the standard phase before it, unless that
    is no believable amount; then the standard phases after it are tried. -/
def saving (initial phase : Phase) (older newer : List (Int × Phase)) : Int :=
  if phase.daylight then
    let standard := ((older.find? (!·.2.daylight)).map (·.2)).getD initial
    let amount := phase.offset - standard.offset
    if amount ≤ 0 ∨ 10800 < amount then savingAgainst phase.offset amount newer else amount
  else 0

/-- The entries of a table, newest first, from instants and phases, newest first; `newer` holds what
    comes after them, oldest first. -/
def entriesOf (initial : Phase) : (newer phases : List (Int × Phase)) → List MinuteEntry
  | _, [] => []
  | newer, (instant, phase) :: older =>
    ⟨instant, wholeMinutes phase.offset, wholeMinutes (saving initial phase older newer)⟩ ::
      entriesOf initial ((instant, phase) :: newer) older

/-- The short table of a zone. The phase in force when 32 bits begin to count is entered there. -/
def ofZone (zone : Zone) : MinuteZone :=
  let phases := (zone.changesThrough 2037).map fun change => (change.instant, change.after)
  let counted := phases.filter fun entry => firstInstant ≤ entry.1 ∧ entry.1 ≤ lastInstant
  let earlier := phases.find? fun entry => entry.1 < firstInstant
  let start := earlier.toList.map fun entry => (firstInstant, entry.2)
  { name := zone.name
    origin := zone.origin
    initial := wholeMinutes zone.initial.offset
    entries := entriesOf zone.initial [] (counted ++ start) }

/-- Whether the offset never changes. -/
def isFixed (zone : MinuteZone) : Bool := zone.origin.isNone

/-- The newest entry at or before a second of universal time. -/
def entryAt? (zone : MinuteZone) (second : Int) : Option MinuteEntry :=
  zone.entries.find? (·.instant ≤ second)

/-- The offset in force at a second of universal time. -/
def offsetAt (zone : MinuteZone) (second : Int) : Int :=
  ((zone.entryAt? second).map (·.offset)).getD zone.initial

/-- The saving in force at a second of universal time. -/
def savingAt (zone : MinuteZone) (second : Int) : Int :=
  ((zone.entryAt? second).map (·.saving)).getD 0

/-- A civil time with the offset and the saving that it is read with. -/
structure Reading where
  civil : Civil
  offset : Int
  saving : Int
deriving DecidableEq

/-- The local reading of an instant, given as a civil time of universal time. -/
def ofUtc (zone : MinuteZone) (utc : Civil) : Except CalendarError Reading := do
  let offset := zone.offsetAt utc.epochSecond
  let civil ← utc.addSeconds offset
  return ⟨civil, offset, zone.savingAt utc.epochSecond⟩

/-- The reading that the zone gives the instant of a civil time read with an offset. -/
def normalize (zone : MinuteZone) (civil : Civil) (offset : Int) : Except CalendarError Reading := do
  let utc ← civil.addSeconds (-offset)
  zone.ofUtc utc

/-- The reading of a civil time with the offset in force at another civil time, if it stands. -/
def candidate? (zone : MinuteZone) (civil near : Civil) : Except CalendarError (Option Reading) := do
  let reading ← zone.normalize civil (zone.offsetAt near.epochSecond)
  return if reading.civil = civil then some reading else none

/-- The two readings that a civil time may have, without repetition; the later instant comes last. -/
def candidates (zone : MinuteZone) (civil : Civil) : Except CalendarError (List Reading) := do
  let dayBefore ← civil.addSeconds (-86400)
  let first ← zone.candidate? civil dayBefore
  let dayAfter ← civil.addSeconds 86400
  let second ← zone.candidate? civil dayAfter
  return match first, second with
    | some a, some b =>
      if a.offset = b.offset then [a] else if a.offset < b.offset then [b, a] else [a, b]
    | some a, none => [a]
    | none, some b => [b]
    | none, none => []

/-- Seconds by which the clock is wound back to leave a gap. -/
def windBack : Int := 21600

/-- The offset that a civil time is read with. The clock is wound back out of a gap at most `fuel`
    times. -/
def offsetOf (zone : MinuteZone) : (fuel : Nat) → (civil : Civil) → Except CalendarError Int
  | 0, _ => .error .dateOutOfRange
  | fuel + 1, civil => do
    match ← zone.candidates civil with
    | [] =>
      let earlier ← civil.addSeconds (-windBack)
      zone.offsetOf fuel earlier
    | [only] => return only.offset
    | several =>
      match several.filter (·.saving = 0) with
      | [standard] => return standard.offset
      | [] => return ((several.getLast?.map (·.offset)).getD zone.initial)
      | rest => return ((rest.getLast?.map (·.offset)).getD zone.initial)

/-- The offset that a civil time is read with: one of those in force a day before and a day after it, of two the
    one on standard time. Winding back ends before the calendar does. -/
def localOffset (zone : MinuteZone) (civil : Civil) : Except CalendarError Int :=
  if zone.isFixed then .ok zone.initial
  else zone.offsetOf (4 * civil.date.dayNumber + 4) civil

/-- The civil time and the offset that the zone's clock shows for a civil time: the same, unless the time
    is skipped. -/
def place (zone : MinuteZone) (civil : Civil) : Except CalendarError Reading :=
  if zone.isFixed then .ok ⟨civil, zone.initial, 0⟩
  else do
    let offset ← zone.localOffset civil
    zone.normalize civil offset

end MinuteZone

end Recurrence
