import Recurrence.Proofs.Zone.Spacing

namespace Recurrence

namespace MinuteZone

/-- The entries of a short table come at least two days after one another, and every offset is one of
    whole minutes, 18 hours at most. -/
structure IsRegular (zone : MinuteZone) : Prop where
  entries : zone.entries.Pairwise fun newer older => older.instant + 172800 ≤ newer.instant
  offsets : ∀ offset ∈ zone.initial :: zone.entries.map (·.offset),
    -64800 ≤ offset ∧ offset ≤ 64800 ∧ offset % 60 = 0
  fixed : zone.isFixed = true → zone.entries = []

theorem map_instant_entriesOf (initial : Phase) (newer phases : List (Int × Phase)) :
    (entriesOf initial newer phases).map (·.instant) = phases.map (·.1) := by
  induction phases generalizing newer with
  | nil => rfl
  | cons entry older ih => rw [entriesOf, List.map_cons, List.map_cons, ih]

theorem map_offset_entriesOf (initial : Phase) (newer phases : List (Int × Phase)) :
    (entriesOf initial newer phases).map (·.offset) =
      phases.map fun entry => wholeMinutes entry.2.offset := by
  induction phases generalizing newer with
  | nil => rfl
  | cons entry older ih => rw [entriesOf, List.map_cons, List.map_cons, ih]

/-- The instants and phases that a short table is made from, newest first. -/
def phasesOf (zone : Zone) : List (Int × Phase) :=
  let phases := (zone.changesThrough 2037).map fun change => (change.instant, change.after)
  phases.filter (fun entry => firstInstant ≤ entry.1 ∧ entry.1 ≤ lastInstant) ++
    (phases.find? fun entry => entry.1 < firstInstant).toList.map fun entry => (firstInstant, entry.2)

theorem entries_ofZone (zone : Zone) :
    (ofZone zone).entries = entriesOf zone.initial [] (phasesOf zone) :=
  rfl

/-- Every phase of a short table is brought by a change of the zone. -/
theorem exists_of_mem_phasesOf {zone : Zone} {entry : Int × Phase} (hmem : entry ∈ phasesOf zone) :
    ∃ change ∈ zone.changesThrough 2037, entry.2 = change.after := by
  unfold phasesOf at hmem
  rcases List.mem_append.1 hmem with hcounted | hstart
  · obtain ⟨change, hchange, rfl⟩ := List.mem_map.1 (List.mem_of_mem_filter hcounted)
    exact ⟨change, hchange, rfl⟩
  · obtain ⟨earlier, hearlier, rfl⟩ := List.mem_map.1 hstart
    obtain ⟨change, hchange, rfl⟩ :=
      List.mem_map.1 (List.mem_of_find?_eq_some (Option.mem_toList.1 hearlier))
    exact ⟨change, hchange, rfl⟩

theorem pairwise_phasesOf {zone : Zone} (hregular : zone.IsRegular) :
    (phasesOf zone).Pairwise fun newer older => older.1 + 172800 ≤ newer.1 := by
  have hphases : ((zone.changesThrough 2037).map fun change => (change.instant, change.after)).Pairwise
      fun newer older => older.1 + 172800 ≤ newer.1 :=
    List.pairwise_map.2 (hregular.pairwise_changesThrough 2037)
  refine List.pairwise_append.2 ⟨hphases.filter _, ?_, ?_⟩
  · cases List.find? _ _ with
    | none => exact List.Pairwise.nil
    | some earlier => exact List.pairwise_singleton _ _
  · intro newer hnewer start hstart
    obtain ⟨earlier, -, rfl⟩ := List.mem_map.1 hstart
    obtain ⟨hentry, hcounted⟩ := List.mem_filter.1 hnewer
    obtain ⟨change, hchange, rfl⟩ := List.mem_map.1 hentry
    rw [decide_eq_true_iff] at hcounted
    have hfirst := hregular.start_of_mem_changesThrough hchange
    dsimp only at hcounted ⊢
    omega

theorem isRegular_ofZone {zone : Zone} (hregular : zone.IsRegular) : (ofZone zone).IsRegular where
  entries := by
    have hinstants : ((phasesOf zone).map (·.1)).Pairwise fun newer older => older + 172800 ≤ newer :=
      List.pairwise_map.2 (pairwise_phasesOf hregular)
    rw [← map_instant_entriesOf zone.initial [], List.pairwise_map] at hinstants
    exact hinstants
  offsets := by
    have hwhole : ∀ offset ∈ zone.offsets, -64800 ≤ wholeMinutes offset ∧ wholeMinutes offset ≤ 64800 ∧
        wholeMinutes offset % 60 = 0 := by
      intro offset hoffset
      have hbounds := hregular.offsets offset hoffset
      unfold wholeMinutes
      omega
    intro offset hoffset
    rw [entries_ofZone, map_offset_entriesOf] at hoffset
    rcases List.mem_cons.1 hoffset with rfl | hoffset
    · exact hwhole _ zone.initial_offset_mem
    · obtain ⟨entry, hentry, rfl⟩ := List.mem_map.1 hoffset
      obtain ⟨change, hchange, hphase⟩ := exists_of_mem_phasesOf hentry
      rw [hphase]
      exact hwhole _ (Zone.offset_mem_of_mem_changesThrough hchange)
  fixed := by
    intro hfixed
    obtain ⟨hhistory, hrule⟩ := hregular.unchanged (Option.isNone_iff_eq_none.1 hfixed)
    simp [entries_ofZone, phasesOf, Zone.changesThrough, hhistory, hrule, entriesOf]

theorem offsetAt_mem (zone : MinuteZone) (second : Int) :
    zone.offsetAt second ∈ zone.initial :: zone.entries.map (·.offset) := by
  unfold offsetAt entryAt?
  cases hfound : zone.entries.find? (·.instant ≤ second) with
  | none => exact List.mem_cons_self
  | some entry => exact List.mem_cons_of_mem _ (List.mem_map_of_mem (List.mem_of_find?_eq_some hfound))

/-- The offset that the newest entry at or before a second brings. -/
def offsetBy (initial : Int) (entries : List MinuteEntry) (second : Int) : Int :=
  ((entries.find? (·.instant ≤ second)).map (·.offset)).getD initial

theorem offsetBy_cons (initial : Int) (newest : MinuteEntry) (older : List MinuteEntry) (second : Int) :
    offsetBy initial (newest :: older) second =
      if newest.instant ≤ second then newest.offset else offsetBy initial older second := by
  unfold offsetBy
  by_cases hnewest : newest.instant ≤ second
  · rw [if_pos hnewest, List.find?_cons_of_pos (by simpa using hnewest)]
    rfl
  · rw [if_neg hnewest, List.find?_cons_of_neg (by simpa using hnewest)]

theorem offsetBy_eq_or {initial : Int} {entries : List MinuteEntry}
    (hapart : entries.Pairwise fun newer older => older.instant + 172800 ≤ newer.instant) {a b c : Int}
    (hab : a ≤ b) (hbc : b ≤ c) (hnear : c ≤ a + 172800) :
    offsetBy initial entries b = offsetBy initial entries a ∨
      offsetBy initial entries b = offsetBy initial entries c := by
  induction entries with
  | nil => exact Or.inl rfl
  | cons newest older ih =>
    obtain ⟨hnewest, holder⟩ := List.pairwise_cons.1 hapart
    rw [offsetBy_cons, offsetBy_cons, offsetBy_cons]
    by_cases hb : newest.instant ≤ b
    · right
      rw [if_pos hb, if_pos (Int.le_trans hb hbc)]
    · have ha : ¬ newest.instant ≤ a := fun ha => hb (Int.le_trans ha hab)
      rw [if_neg hb, if_neg ha]
      by_cases hc : newest.instant ≤ c
      · -- The entry before it has been in force for two days then, so it is in force at both others.
        left
        cases older with
        | nil => rfl
        | cons next rest =>
          have hnext := hnewest next List.mem_cons_self
          rw [offsetBy_cons, offsetBy_cons, if_pos (by omega), if_pos (by omega)]
      · rw [if_neg hc]
        exact ih holder

namespace IsRegular

variable {zone : MinuteZone} (hregular : zone.IsRegular)

include hregular

theorem offsetAt_between (second : Int) :
    -64800 ≤ zone.offsetAt second ∧ zone.offsetAt second ≤ 64800 ∧ zone.offsetAt second % 60 = 0 :=
  hregular.offsets _ (zone.offsetAt_mem second)

/-- Within two days the offset changes once at most. -/
theorem offsetAt_eq_or {a b c : Int} (hab : a ≤ b) (hbc : b ≤ c) (hnear : c ≤ a + 172800) :
    zone.offsetAt b = zone.offsetAt a ∨ zone.offsetAt b = zone.offsetAt c :=
  offsetBy_eq_or hregular.entries hab hbc hnear

theorem offsetAt_of_isFixed (hfixed : zone.isFixed = true) (second : Int) :
    zone.offsetAt second = zone.initial := by
  unfold offsetAt entryAt?
  rw [hregular.fixed hfixed]
  rfl

end IsRegular

end MinuteZone

end Recurrence
