import Recurrence.Moment.Conversion
import Recurrence.Moment.Error
import Recurrence.Text.Blank
import Recurrence.Zone.Database

namespace Recurrence

namespace ZoneDatabase

/-- The zone that a name means, searched for anew. An exact name comes before a loosely written one. -/
def search (zones : ZoneDatabase) (name : String) : Except TimeError TargetZone :=
  if Text.allBlank name then .error (.zoneInvalid (.text name))
  else
    match zones.named? name with
    | some zone => .ok (.exact zone)
    | none =>
      match zones.looselyNamed? name with
      | some zone => .ok (.lenient zone)
      | none => .error (.zoneUnknown name)

/-- The zone that a value names. -/
def searchValue (zones : ZoneDatabase) (value : Value) : Except TimeError TargetZone :=
  match value with
  | .text name => zones.search name
  | value => .error (.zoneInvalid value)

end ZoneDatabase

/-- Zones that have been found, with the names that they were asked by. -/
structure ZoneMemory where
  entries : List (String × TargetZone) := []

namespace ZoneMemory

/-- The zone that is remembered for a name. -/
def remembered? (memory : ZoneMemory) (name : String) : Option TargetZone :=
  (memory.entries.find? (·.1 == name)).map (·.2)

/-- The zone that a name means, and what is remembered afterwards. A search that fails leaves no
    trace. -/
def find (memory : ZoneMemory) (zones : ZoneDatabase) (name : String) : Except TimeError TargetZone × ZoneMemory :=
  match memory.remembered? name with
  | some zone => (.ok zone, memory)
  | none =>
    match zones.search name with
    | .ok zone => (.ok zone, ⟨(name, zone) :: memory.entries⟩)
    | .error error => (.error error, memory)

/-- What is remembered is what a new search finds. -/
def Faithful (memory : ZoneMemory) (zones : ZoneDatabase) : Prop :=
  ∀ name zone, memory.remembered? name = some zone → zones.search name = .ok zone

theorem find_fst_of_faithful {memory : ZoneMemory} {zones : ZoneDatabase}
    (hfaithful : memory.Faithful zones) (name : String) :
    (memory.find zones name).1 = zones.search name := by
  unfold find
  split
  · next zone hrecall => rw [hfaithful name zone hrecall]
  · split
    · next zone hsearch => rw [hsearch]
    · next error hsearch => rw [hsearch]

end ZoneMemory

end Recurrence
