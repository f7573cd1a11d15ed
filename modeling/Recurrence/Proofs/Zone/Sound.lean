import Recurrence.Moment.Lookup
import Recurrence.Proofs.Zone.Counted

namespace Recurrence

/-- What is relied on of the zones that a database gives. A zone with an exact name is the one zone of that name; its
    changes come two days apart and join, its annual rule takes up its table, and its offsets are bounded. A short
    table keeps its entries apart and counts them in 32 bits, and its own name tells it from every other one. -/
structure ZoneDatabase.IsSound (zones : ZoneDatabase) : Prop where
  name_eq {name : String} {zone : Zone} (hnamed : zones.named? name = some zone) : zone.name = name
  isJoined {name : String} {zone : Zone} (hnamed : zones.named? name = some zone) : zone.IsJoined
  isRegular {name : String} {zone : MinuteZone} (hnamed : zones.looselyNamed? name = some zone) :
    zone.IsRegular
  isCounted {name : String} {zone : MinuteZone} (hnamed : zones.looselyNamed? name = some zone) :
    zone.IsCounted
  eq_of_looselyNamed {name other : String} {a b : MinuteZone} (ha : zones.looselyNamed? name = some a)
    (hb : zones.looselyNamed? other = some b) (hname : a.name = b.name) : a = b

/-- Zones with exact names are told apart by their own names. -/
theorem ZoneDatabase.IsSound.eq_of_named {zones : ZoneDatabase} (hsound : zones.IsSound) {name other : String}
    {a b : Zone} (ha : zones.named? name = some a) (hb : zones.named? other = some b)
    (hname : a.name = b.name) : a = b := by
  rw [hsound.name_eq ha, hsound.name_eq hb] at hname
  rw [hname] at ha
  exact Option.some.inj (ha.symm.trans hb)

/-- A zone that a database gives for some name. -/
def TargetZone.IsNamed (zones : ZoneDatabase) : TargetZone → Prop
  | .exact zone => ∃ name, zones.named? name = some zone
  | .lenient zone => ∃ name, zones.looselyNamed? name = some zone

theorem ZoneDatabase.isNamed_of_search {zones : ZoneDatabase} {name : String} {target : TargetZone}
    (hfound : zones.search name = .ok target) : target.IsNamed zones := by
  unfold search at hfound
  split at hfound
  · cases hfound
  · split at hfound
    · next zone hnamed =>
      cases hfound
      exact ⟨name, hnamed⟩
    · split at hfound
      · next zone hnamed =>
        cases hfound
        exact ⟨name, hnamed⟩
      · cases hfound

/-- A frame whose zone, where it has one, a database gives for some name. -/
def Frame.IsKnown (zones : ZoneDatabase) : Frame → Prop
  | .floating => True
  | .fixed _ => True
  | .zoned zone => (TargetZone.exact zone).IsNamed zones
  | .anchored zone _ => (TargetZone.lenient zone).IsNamed zones

end Recurrence
