import Recurrence.Log.Notice
import Recurrence.Moment.Literal

namespace Recurrence

/-- A zone, and the time of day that occurrences are given there. -/
structure Projection where
  zone : TargetZone
  clock : TimeOfDay

namespace ZoneMemory

/-- The zone that a value names, and what is remembered afterwards. -/
def findValue (memory : ZoneMemory) (zones : ZoneDatabase) (name : Value) :
    Except TimeError TargetZone × ZoneMemory :=
  match name with
  | .text name => memory.find zones name
  | name => (.error (.zoneInvalid name), memory)

/-- The moment expressed in the zone that a value names, and what is remembered afterwards. -/
def toZone (memory : ZoneMemory) (zones : ZoneDatabase) (moment : Moment) (name : Value) :
    Except Fault Moment × ZoneMemory :=
  let (found, later) := memory.findValue zones name
  match found with
  | .error cause => (.error (.time cause), later)
  | .ok target => ((moment.toZone target).mapError .calendar, later)

/-- What is reported when a zone is looked up; nothing if it is remembered. -/
def remarks (memory : ZoneMemory) (zones : ZoneDatabase) : (name : Value) → List Notice
  | .text name =>
    if (memory.remembered? name).isSome || Text.allBlank name then []
    else
      let exact := if (zones.named? name).isSome then [] else [Notice.zoneNotExact name]
      match zones.search name with
      | .ok zone => exact ++ [.zoneResolved name zone]
      | .error _ => exact
  | _ => []

end ZoneMemory

namespace Projection

/-- The moment that the projection gives an instant. -/
def pin (projection : Projection) (moment : Moment) : Except CalendarError Moment :=
  moment.pin projection.zone projection.clock

/-- The written form of an occurrence in the target zone. -/
def project (projection : Projection) (moment : Moment) : Except CalendarError String :=
  (projection.pin moment).map Moment.render

/-- The projection that a zone and a reference time ask for. The time of day is read first and the zone is looked
    up second. -/
def make (zones : ZoneDatabase) (zone clock : Value) : Except TimeError Projection := do
  let clock ← wallClockOf clock
  let zone ← zones.searchValue zone
  return ⟨zone, clock⟩

/-- The same with remembered zones, and what is remembered and reported. -/
def makeWith (zones : ZoneDatabase) (memory : ZoneMemory) (zone clock : Value) :
    Reported (Except TimeError Projection) × ZoneMemory :=
  match wallClockOf clock with
  | .error error => (⟨.error error, []⟩, memory)
  | .ok clock =>
    let (found, later) := memory.findValue zones zone
    (⟨found.map (⟨·, clock⟩), memory.remarks zones zone⟩, later)

theorem makeWith_value_of_faithful {zones : ZoneDatabase} {memory : ZoneMemory}
    (hfaithful : memory.Faithful zones) (zone clock : Value) :
    (makeWith zones memory zone clock).1.value = make zones zone clock := by
  unfold makeWith make
  cases wallClockOf clock with
  | error error => rfl
  | ok time =>
    cases zone with
    | text name =>
      simp only [ZoneMemory.findValue, ZoneMemory.find_fst_of_faithful hfaithful,
        ZoneDatabase.searchValue, bind, Except.bind, pure, Except.pure]
      cases zones.search name <;> rfl
    | _ => rfl

end Projection

/-- What is reported of a run: its plan at the start, and at its end, unless it fails, how far it came and
    whether the cap on steps stopped it. -/
def Run.remarks (plan : Plan) (run : Run) : List Notice :=
  let occurrences := run.last.found.size
  let steps := run.last.steps
  match run.ending with
  | .failed _ => [.expansionStarted plan]
  | .capped =>
    [.expansionStarted plan, .expansionStopped occurrences steps plan.limit,
      .expansionFinished occurrences steps]
  | _ => [.expansionStarted plan, .expansionFinished occurrences steps]

/-- The wording of a fault that is reported to the user, if it has one. -/
def Fault.message? : Fault → Option String
  | .noStart => some "Rule has no start instant; parse it with a DTSTART declaration"
  | .time cause => some cause.message
  | .incomparable | .unusableThreshold | .calendar _ | .numeral _ => none

/-- A plan's occurrences in written form under a projection, with what is reported. An occurrence that
    cannot be pinned fails before whatever ended the run, and then nothing is reported of its end. -/
def Plan.project (plan : Plan) (projection : Projection) : Reported (Except Fault (List String)) :=
  let run := plan.run
  match run.occurrences.mapM projection.project with
  | .error cause => ⟨.error (.calendar cause), [.expansionStarted plan]⟩
  | .ok projected => ⟨run.all.map fun _ => projected, run.remarks plan⟩

/-- The occurrences of a rule in written form, in a zone and at a reference time, with what is reported of
    the look-up and of the run. -/
def Rule.expand (rule : Rule) (zones : ZoneDatabase) (zone clock : Value) (limit : Option Threshold)
    (bound : Option Moment) (limits : Limits) : Reported (Except Fault (List String)) :=
  let made := (Projection.makeWith zones {} zone clock).1
  match made.value with
  | .error error => ⟨.error (.time error), made.notices⟩
  | .ok projection =>
    match Plan.make rule limit bound limits with
    | .error fault => ⟨.error fault, made.notices⟩
    | .ok plan =>
      let result := plan.project projection
      ⟨result.value, made.notices ++ result.notices⟩

end Recurrence
