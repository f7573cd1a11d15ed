import Recurrence.Text.Split
import Recurrence.Zone.Database
import Recurrence.Zone.Table.Africa
import Recurrence.Zone.Table.America
import Recurrence.Zone.Table.Asia
import Recurrence.Zone.Table.Europe
import Recurrence.Zone.Table.Oceania

namespace Recurrence

namespace Zone

open Table

/-- The zones named after an offset. The sign counts west of universal time as positive. -/
def offsetZones : List Zone :=
  (List.range 15).map (fun hours : Nat => unchanging s!"Etc/GMT-{hours}" (hours * 3600 : Nat)) ++
    (List.range 13).map (fun hours : Nat => unchanging s!"Etc/GMT+{hours}" (-(hours * 3600 : Nat)))

/-- The names of universal time. -/
def universalZones : List Zone :=
  ["UTC", "Zulu", "UCT", "Universal", "GMT", "GMT0", "GMT+0", "GMT-0", "Greenwich", "Etc/UTC",
    "Etc/UCT", "Etc/Universal", "Etc/Zulu", "Etc/GMT", "Etc/GMT0", "Etc/Greenwich"].map
    (unchanging · 0)

/-- The same clocks under another name. -/
def linked (zone : Zone) (name : String) : Zone := { zone with name }

/-- Zones that have more than one name, once for each further name. -/
def aliases : List Zone :=
  [london.linked "GB", losAngeles.linked "US/Pacific", newYork.linked "US/Eastern",
    newYork.linked "EST5EDT", kolkata.linked "Asia/Calcutta", moscow.linked "W-SU"]

/-- The zones that can be found. -/
def catalogue : List Zone :=
  [cairo, casablanca, monrovia, havana, losAngeles, newYork, nuuk, santiago, saoPaulo, stJohns,
    knox, buenosAires, easternStandard, mountain, kathmandu, kolkata, tehran, tokyo, hongkong,
    dublin, london, moscow, paris, centralEuropean, troll, lordHowe, sydney, apia, chatham,
    kiritimati] ++ aliases ++ universalZones ++ offsetZones

/-- The folders of a name and its last part. -/
def pathOf (name : String) : List String × String :=
  let parts := (Text.fields '/' name.toList).map String.ofList
  (parts.dropLast, parts.getLastD "")

/-- A name in which dots between folders are replaced by slashes. -/
def slashed (name : String) : String :=
  let (folders, last) := pathOf name
  "/".intercalate (folders.map (Text.replaceAll "." "/") ++ [last])

/-- The zone with exactly this name. Dots may stand between the folders of a name. -/
def named? (name : String) : Option Zone :=
  (catalogue.find? (·.name == slashed name)).map (linked · name)

end Zone

namespace MinuteZone

/-- The letters of a name without regard to case. -/
def foldCase (name : String) : List Char := name.toList.map Char.toLower

/-- The zone that a loosely written name means: letter case does not matter, and a plus or a minus may
    be spelt out between underscores. Universal time is meant by any spelling of its short name. -/
def named? (name : String) : Option MinuteZone :=
  if foldCase name = foldCase "UTC" then some (ofZone (Zone.unchanging "UTC" 0))
  else
    let plain := Text.replaceAll "_minus_" "-" (Text.replaceAll "_plus_" "+" name)
    if plain.toList.all (·.toNat < 128) then
      (Zone.catalogue.find? fun zone => foldCase zone.name = foldCase plain).map ofZone
    else none

end MinuteZone

/-- The listed zones as a database: some of the names that a database of the world's zones has. Others lead nowhere
    here. -/
def ZoneDatabase.listed : ZoneDatabase := ⟨Zone.named?, MinuteZone.named?⟩

end Recurrence
