import Recurrence.Proofs.Zone.ShortTable
import Recurrence.Proofs.Zone.ShownOnce

namespace Recurrence

namespace MinuteZone

/-- The entries that 32 bits count, and before them the phase in force when they begin to count. -/
def countedOf (phases : List (Int × Phase)) : List (Int × Phase) :=
  phases.filter (fun entry => firstInstant ≤ entry.1 ∧ entry.1 ≤ lastInstant) ++
    (phases.find? fun entry => entry.1 < firstInstant).toList.map fun entry => (firstInstant, entry.2)

theorem phasesOf_eq (zone : Zone) :
    phasesOf zone = countedOf ((zone.changesThrough 2037).map fun change => (change.instant, change.after)) :=
  rfl

theorem filter_eq_nil_of_lt {phases : List (Int × Phase)} (hearly : ∀ entry ∈ phases, entry.1 < firstInstant) :
    phases.filter (fun entry => firstInstant ≤ entry.1 ∧ entry.1 ≤ lastInstant) = [] := by
  rw [List.filter_eq_nil_iff]
  intro entry hmem
  have := hearly entry hmem
  rw [decide_eq_true_iff]
  omega

/-- Where 32 bits count, leaving out what they do not count does not change the phase in force. -/
theorem find?_countedOf {phases : List (Int × Phase)} (hsorted : phases.Pairwise fun newer older => older.1 < newer.1)
    {second : Int} (hge : firstInstant ≤ second) (hle : second ≤ lastInstant) :
    ((countedOf phases).find? (·.1 ≤ second)).map (·.2) = (phases.find? (·.1 ≤ second)).map (·.2) := by
  induction phases with
  | nil => rfl
  | cons newest older ih =>
    obtain ⟨hnewest, holder⟩ := List.pairwise_cons.1 hsorted
    have hrest := ih holder
    unfold countedOf at hrest ⊢
    by_cases hearly : newest.1 < firstInstant
    · have hnone := filter_eq_nil_of_lt fun entry (hmem : entry ∈ newest :: older) => by
        rcases List.mem_cons.1 hmem with rfl | hmem
        · exact hearly
        · exact Int.lt_trans (hnewest entry hmem) hearly
      have hpassed : newest.1 ≤ second := by omega
      rw [hnone, List.nil_append, List.find?_cons_of_pos (by simpa using hearly),
        List.find?_cons_of_pos (by simpa using hpassed)]
      simp [hge]
    · rw [List.find?_cons_of_neg (by simpa using hearly)]
      by_cases hpassed : newest.1 ≤ second
      · have hcounted : firstInstant ≤ newest.1 ∧ newest.1 ≤ lastInstant := by omega
        rw [List.filter_cons_of_pos (by simpa using hcounted), List.cons_append,
          List.find?_cons_of_pos (by simpa using hpassed), List.find?_cons_of_pos (by simpa using hpassed)]
      · rw [@List.find?_cons_of_neg _ (·.1 ≤ second) newest older (by simpa using hpassed), ← hrest,
          List.filter_cons]
        split
        · rw [List.cons_append, List.find?_cons_of_neg (by simpa using hpassed)]
        · rfl

theorem find?_entriesOf (initial : Phase) (newer phases : List (Int × Phase)) (second : Int) :
    ((entriesOf initial newer phases).find? (·.instant ≤ second)).map (·.offset) =
      ((phases.find? (·.1 ≤ second)).map (·.2)).map fun phase => wholeMinutes phase.offset := by
  induction phases generalizing newer with
  | nil => rfl
  | cons entry older ih =>
    rw [entriesOf]
    by_cases hpassed : entry.1 ≤ second
    · rw [List.find?_cons_of_pos (by simpa using hpassed), List.find?_cons_of_pos (by simpa using hpassed)]
      rfl
    · rw [List.find?_cons_of_neg (by simpa using hpassed), List.find?_cons_of_neg (by simpa using hpassed)]
      exact ih _

/-- Where 32 bits count, a short table has the offsets of its zone, in whole minutes. -/
theorem offsetAt_ofZone {zone : Zone} (hjoined : zone.IsJoined) {second : Int} (hge : firstInstant ≤ second)
    (hreaches : Zone.Reaches 2037 second) :
    (ofZone zone).offsetAt second = wholeMinutes (zone.offsetAt second) := by
  have hle : second ≤ lastInstant := by
    have hlast : monthSecond (12 * (2037 + 1)) ≤ lastInstant := by decide
    unfold Zone.Reaches at hreaches
    omega
  have hsorted : ((zone.changesThrough 2037).map fun change => (change.instant, change.after)).Pairwise
      fun newer older => older.1 < newer.1 := by
    refine List.pairwise_map.2 ((hjoined.pairwise_changesThrough 2037).imp fun hapart => ?_)
    unfold Change.Apart at hapart
    dsimp only
    omega
  have hphase : ((zone.timetable hjoined 2037).lastAt? second).map (·.after) =
      ((phasesOf zone).find? (·.1 ≤ second)).map (·.2) := by
    rw [phasesOf_eq, find?_countedOf hsorted hge hle, List.find?_map, Option.map_map]
    rfl
  rw [Zone.offsetAt_eq hjoined hreaches, Timetable.phaseAt, hphase, offsetAt, entryAt?, entries_ofZone,
    find?_entriesOf]
  cases ((phasesOf zone).find? (·.1 ≤ second)).map (·.2) <;> rfl

/-- A table whose entries are counted by 32 bits. -/
def IsCounted (zone : MinuteZone) : Prop :=
  ∀ entry ∈ zone.entries, firstInstant ≤ entry.instant ∧ entry.instant ≤ lastInstant

theorem isCounted_ofZone (zone : Zone) : (ofZone zone).IsCounted := by
  intro entry hmem
  have hinstant : entry.instant ∈ (phasesOf zone).map (·.1) := by
    rw [← map_instant_entriesOf zone.initial [], ← entries_ofZone]
    exact List.mem_map_of_mem hmem
  obtain ⟨counted, hcounted, hsame⟩ := List.mem_map.1 hinstant
  rw [← hsame]
  rcases List.mem_append.1 hcounted with hcounted | hstart
  · exact of_decide_eq_true (List.mem_filter.1 hcounted).2
  · obtain ⟨earlier, -, rfl⟩ := List.mem_map.1 hstart
    have hcount : firstInstant ≤ lastInstant := by decide
    exact ⟨Int.le_refl _, hcount⟩

namespace IsCounted

variable {zone : MinuteZone} (hcounted : zone.IsCounted)

include hcounted

theorem offsetAt_of_lt_firstInstant {second : Int} (hearly : second < firstInstant) :
    zone.offsetAt second = zone.initial := by
  have hnone : zone.entryAt? second = none := by
    rw [entryAt?, List.find?_eq_none]
    intro entry hmem
    have := (hcounted entry hmem).1
    rw [decide_eq_true_iff]
    omega
  rw [offsetAt, hnone]
  rfl

theorem offsetAt_of_lastInstant_le {second : Int} (hlate : lastInstant ≤ second) :
    zone.offsetAt second = zone.offsetAt lastInstant := by
  have hsame : zone.entryAt? second = zone.entryAt? lastInstant := by
    unfold entryAt?
    apply List.find?_congr
    intro entry hmem
    have := (hcounted entry hmem).2
    rw [decide_eq_decide]
    omega
  rw [offsetAt, hsame, offsetAt]

/-- Two seconds with different offsets are neither both before what 32 bits count nor both after it. -/
theorem near_of_offsetAt_ne {a b : Int} (hne : zone.offsetAt a ≠ zone.offsetAt b) :
    (firstInstant ≤ a ∨ firstInstant ≤ b) ∧ (a < lastInstant ∨ b < lastInstant) := by
  constructor
  · by_contra hearly
    have ha := hcounted.offsetAt_of_lt_firstInstant (show a < firstInstant by omega)
    have hb := hcounted.offsetAt_of_lt_firstInstant (show b < firstInstant by omega)
    exact hne (ha.trans hb.symm)
  · by_contra hlate
    have ha := hcounted.offsetAt_of_lastInstant_le (show lastInstant ≤ a by omega)
    have hb := hcounted.offsetAt_of_lastInstant_le (show lastInstant ≤ b by omega)
    exact hne (ha.trans hb.symm)

end IsCounted

end MinuteZone

namespace Zone

/-- Whether a table has the offsets of a zone from two days before a civil time, taken as universal, to two days
    after it. -/
def Shares (zone : Zone) (table : MinuteZone) (civil : Civil) : Prop :=
  ∀ second, civil.epochSecond - 172800 ≤ second → second ≤ civil.epochSecond + 172800 →
    table.offsetAt second = zone.offsetAt second

/-- Where 32 bits count, the short table of a zone has the zone's offsets if these are whole minutes. -/
theorem shares_ofZone {zone : Zone} (hjoined : zone.IsJoined) {civil : Civil}
    (hge : MinuteZone.firstInstant + 172800 ≤ civil.epochSecond)
    (hreaches : Reaches 2037 (civil.epochSecond + 172800))
    (hwhole : ∀ second, civil.epochSecond - 172800 ≤ second → second ≤ civil.epochSecond + 172800 →
      zone.offsetAt second % 60 = 0) : zone.Shares (MinuteZone.ofZone zone) civil := by
  intro second hlower hupper
  have hoffset := hwhole second hlower hupper
  rw [MinuteZone.offsetAt_ofZone hjoined (by omega) (hreaches.of_le hupper)]
  unfold MinuteZone.wholeMinutes
  omega

end Zone

end Recurrence
