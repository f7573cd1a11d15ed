import Mathlib.Data.List.Nodup
import Recurrence.Proofs.Zone.Sound
import Recurrence.Zone.Catalogue

namespace Recurrence

namespace Zone

theorem isJoined_of_mem_catalogue {zone : Zone} (hmem : zone ∈ catalogue) : zone.IsJoined := by
  have hregular : ∀ zone ∈ catalogue, zone.IsRegular := by
    decide +kernel
  have hjoined : ∀ zone ∈ catalogue, Linked zone.initial zone.history ∧
      ∀ rule ∈ zone.rule, rule.opening = latestPhase zone.initial zone.history := by
    decide +kernel
  exact ⟨hregular zone hmem, (hjoined zone hmem).1, (hjoined zone hmem).2⟩

/-- Under another name a zone has the same clocks. -/
theorem isJoined_linked {zone : Zone} (hjoined : zone.IsJoined) (name : String) :
    (zone.linked name).IsJoined :=
  ⟨⟨hjoined.history, hjoined.start, hjoined.year, hjoined.rule, hjoined.between, hjoined.back,
    hjoined.offsets, hjoined.unchanged⟩, hjoined.linked, hjoined.opening⟩

theorem exists_of_named? {name : String} {zone : Zone} (hnamed : named? name = some zone) :
    ∃ listed ∈ catalogue, listed.linked name = zone := by
  obtain ⟨listed, hlisted, hzone⟩ := Option.map_eq_some_iff.1 hnamed
  exact ⟨listed, List.mem_of_find?_eq_some hlisted, hzone⟩

end Zone

/-- A loosely written name leads to the short table of a zone of the catalogue. -/
theorem MinuteZone.exists_of_named? {name : String} {zone : MinuteZone} (hnamed : named? name = some zone) :
    ∃ listed ∈ Zone.catalogue, ofZone listed = zone := by
  unfold named? at hnamed
  split at hnamed
  · cases hnamed
    exact ⟨_, by decide +kernel, rfl⟩
  · dsimp only at hnamed
    split at hnamed
    · obtain ⟨listed, hlisted, hzone⟩ := Option.map_eq_some_iff.1 hnamed
      exact ⟨listed, List.mem_of_find?_eq_some hlisted, hzone⟩
    · cases hnamed

/-- The listed zones are as a database of zones has to be. -/
theorem ZoneDatabase.isSound_listed : listed.IsSound where
  name_eq hnamed := by
    obtain ⟨zone, -, rfl⟩ := Zone.exists_of_named? hnamed
    rfl
  isJoined hnamed := by
    obtain ⟨zone, hmem, rfl⟩ := Zone.exists_of_named? hnamed
    exact Zone.isJoined_linked (Zone.isJoined_of_mem_catalogue hmem) _
  isRegular hnamed := by
    obtain ⟨zone, hmem, rfl⟩ := MinuteZone.exists_of_named? hnamed
    exact MinuteZone.isRegular_ofZone (Zone.isJoined_of_mem_catalogue hmem).toIsRegular
  isCounted hnamed := by
    obtain ⟨zone, -, rfl⟩ := MinuteZone.exists_of_named? hnamed
    exact MinuteZone.isCounted_ofZone zone
  eq_of_looselyNamed ha hb hname := by
    have hnames : (Zone.catalogue.map (·.name)).Nodup := by
      decide +kernel
    obtain ⟨first, hfirst, rfl⟩ := MinuteZone.exists_of_named? ha
    obtain ⟨second, hsecond, rfl⟩ := MinuteZone.exists_of_named? hb
    rw [List.inj_on_of_nodup_map hnames hfirst hsecond hname]

end Recurrence
