import Recurrence.Moment.Basic

namespace Recurrence

/-- A zone that moments can be expressed in: one whose offset is derived from the wall clock each time,
    or one with a short table. -/
inductive TargetZone where
  | exact (zone : Zone)
  | lenient (zone : MinuteZone)
deriving DecidableEq

namespace TargetZone

/-- The local moment of an instant, given as a civil time of universal time. -/
def ofUtc (target : TargetZone) (utc : Civil) : Except CalendarError Moment :=
  match target with
  | .exact zone => do
    let civil ← utc.addSeconds (zone.phaseAt utc).offset
    return ⟨civil, .zoned zone, zone.foldAt utc⟩
  | .lenient zone => do
    let reading ← zone.ofUtc utc
    return ⟨reading.civil, .anchored zone reading.offset, false⟩

/-- A civil time placed in the zone. -/
def place (target : TargetZone) (civil : Civil) (fold : Bool) : Except CalendarError Moment :=
  match target with
  | .exact zone => .ok ⟨civil, .zoned zone, fold⟩
  | .lenient zone => do
    let offset ← zone.localOffset civil
    return ⟨civil, .anchored zone offset, false⟩

end TargetZone

namespace Moment

/-- The civil time of universal time that a moment means; a floating one is taken as universal. -/
def toUtc (moment : Moment) : Except CalendarError Civil :=
  moment.civil.addSeconds (-(moment.offset?.getD 0))

/-- Whether the moment is already on the wall clock of the target. -/
def isIn (moment : Moment) (target : TargetZone) : Bool :=
  match moment.frame, target with
  | .zoned here, .exact zone => here.name == zone.name
  | .anchored here _, .lenient zone => zone.isFixed && here.name == zone.name
  | _, _ => false

/-- The moment expressed in a zone. It goes through universal time, and the instant is never moved. A moment that
    is already there stays as it is. -/
def toZone (moment : Moment) (target : TargetZone) : Except CalendarError Moment :=
  if moment.isIn target then .ok moment
  else do
    let utc ← moment.toUtc
    target.ofUtc utc

/-- The moment with another time of day on the same date, to the second. -/
def setWallClock (moment : Moment) (time : TimeOfDay) : Except CalendarError Moment :=
  let civil : Civil := ⟨moment.civil.date, time.wholeSecond⟩
  match moment.frame with
  | .anchored zone _ => do
    let reading ← zone.place civil
    return ⟨reading.civil, .anchored zone reading.offset, false⟩
  | frame => .ok ⟨civil, frame, moment.fold⟩

/-- The moment expressed in a zone, at a time of day there: the date is kept, and the offset derived anew. -/
def pin (moment : Moment) (target : TargetZone) (time : TimeOfDay) : Except CalendarError Moment := do
  let placed ← moment.toZone target
  placed.setWallClock time

end Moment

end Recurrence
