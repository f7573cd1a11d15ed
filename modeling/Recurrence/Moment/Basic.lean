import Recurrence.Calendar.Shift
import Recurrence.Zone.Minute

namespace Recurrence

/-- What a civil time is read against. A floating moment has no offset; a fixed one carries its offset; a zoned
    one takes it from its zone each time it is asked; an anchored one belongs to a zone with a short table and
    keeps the offset that it was placed with. -/
inductive Frame where
  | floating
  | fixed (offset : Int)
  | zoned (zone : Zone)
  | anchored (zone : MinuteZone) (offset : Int)
deriving DecidableEq

/-- The frame of universal time. -/
def Frame.utc : Frame := .fixed 0

/-- A civil time in a frame. The fold tells the second pass of a repeated time from the first. -/
structure Moment where
  civil : Civil
  frame : Frame
  fold : Bool := false
deriving DecidableEq

namespace Moment

/-- A moment of universal time. -/
def utc (civil : Civil) : Moment := ⟨civil, .utc, false⟩

/-- Seconds east of universal time, unless the moment is floating. -/
def offset? (moment : Moment) : Option Int :=
  match moment.frame with
  | .floating => none
  | .fixed offset => some offset
  | .zoned zone => some (zone.phaseOf moment.civil moment.fold).offset
  | .anchored _ offset => some offset

/-- Place of the instant on the line of microseconds of universal time. It may lie outside the
    calendar. -/
def instantTick (moment : Moment) : Int :=
  moment.civil.ticks - moment.offset?.getD 0 * 1000000

/-- Whether both moments are read on the wall clock of one zone. -/
def sameZone (a b : Moment) : Bool :=
  match a.frame, b.frame with
  | .zoned za, .zoned zb => za.name == zb.name
  | _, _ => false

/-- Whether `a` is later than `b`. Moments are compared by the instants they mean, but floating ones, and those of
    one zone, as their wall clocks show them. A floating moment and another cannot be compared. -/
def isAfter? (a b : Moment) : Option Bool :=
  match a.offset?, b.offset? with
  | none, none => some (b.civil < a.civil)
  | some _, some _ =>
    if sameZone a b then some (b.civil < a.civil)
    else some (b.instantTick < a.instantTick)
  | _, _ => none

/-- Arithmetic moves the civil time and keeps the frame; the result is the first pass. -/
def shift (moment : Moment) (unit : CalendarUnit) (amount : Int) : Except CalendarError Moment := do
  let civil ← moment.civil.shift unit amount
  return ⟨civil, moment.frame, false⟩

/-- The same with the unit given by its name. -/
def shiftBy (moment : Moment) (unit : String) (amount : Int) : Except ShiftError Moment :=
  match CalendarUnit.ofName? unit with
  | some unit => (moment.shift unit amount).mapError .calendar
  | none => .error (.unknownUnit unit)

end Moment

end Recurrence
