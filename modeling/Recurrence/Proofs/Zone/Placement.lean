import Recurrence.Proofs.Moment.Pinning
import Recurrence.Proofs.Zone.ShortTable

namespace Recurrence

namespace Civil

theorem eq_of_ticks {a b : Civil} (hticks : a.ticks = b.ticks) : a = b := by
  have hplaced := ofTicks_ticks a
  rw [hticks, ofTicks_ticks b, Except.ok.injEq] at hplaced
  exact hplaced.symm

theorem epochSecond_of_addSeconds {civil later : Civil} {amount : Int}
    (hlater : civil.addSeconds amount = .ok later) : later.epochSecond = civil.epochSecond + amount := by
  have hticks := addSeconds_eq_ok_iff.1 hlater
  have hmicro := civil.time.micro_lt
  have hother := later.time.micro_lt
  unfold ticks ticksPerDay TimeOfDay.ticks at hticks
  unfold epochSecond
  omega

end Civil

namespace MinuteZone

/-- Whether the clock of a zone shows a civil time at some instant. -/
def Shows (zone : MinuteZone) (civil : Civil) : Prop :=
  ∃ second : Int, second + zone.offsetAt second = civil.epochSecond

/-- A civil time is read at the second that it means with an offset. -/
theorem of_normalize {zone : MinuteZone} {civil : Civil} {offset : Int} {reading : Reading}
    (hreading : zone.normalize civil offset = .ok reading) :
    reading.offset = zone.offsetAt (civil.epochSecond - offset) ∧
      (reading.civil.ticks : Int) = civil.ticks + (reading.offset - offset) * 1000000 ∧
      reading.civil.epochSecond = civil.epochSecond - offset + reading.offset := by
  obtain ⟨utc, hutc, hlocal⟩ := bind_eq_ok_iff.1 hreading
  obtain ⟨shown, hshown, hread⟩ := bind_eq_ok_iff.1 hlocal
  cases hread
  have hsecond := Civil.epochSecond_of_addSeconds hutc
  have hlocalSecond := Civil.epochSecond_of_addSeconds hshown
  have hticks := Civil.addSeconds_eq_ok_iff.1 hutc
  have hlocalTicks := Civil.addSeconds_eq_ok_iff.1 hshown
  rw [hsecond, ← Int.sub_eq_add_neg] at *
  dsimp only
  refine ⟨rfl, by omega, by omega⟩

theorem shows_of_normalize {zone : MinuteZone} {civil : Civil} {offset : Int} {reading : Reading}
    (hreading : zone.normalize civil offset = .ok reading) : zone.Shows reading.civil := by
  obtain ⟨hoffset, -, hsecond⟩ := of_normalize hreading
  exact ⟨civil.epochSecond - offset, by rw [hsecond, hoffset]⟩

/-- A civil time keeps exactly the offset that is in force then. -/
theorem civil_eq_iff_of_normalize {zone : MinuteZone} {civil : Civil} {offset : Int} {reading : Reading}
    (hreading : zone.normalize civil offset = .ok reading) :
    reading.civil = civil ↔ reading.offset = offset := by
  obtain ⟨-, hticks, -⟩ := of_normalize hreading
  constructor
  · intro hcivil
    rw [hcivil] at hticks
    omega
  · intro hoffset
    exact Civil.eq_of_ticks (by omega)

/-- A reading of a civil time stands if the zone gives the time back. -/
def Stands (zone : MinuteZone) (civil : Civil) (reading : Reading) : Prop :=
  zone.normalize civil reading.offset = .ok reading ∧ reading.civil = civil

theorem of_candidate? {zone : MinuteZone} {civil near : Civil} {found : Option Reading}
    (hfound : zone.candidate? civil near = .ok found) :
    (∀ reading ∈ found, zone.Stands civil reading) ∧
      (zone.offsetAt (civil.epochSecond - zone.offsetAt near.epochSecond) =
        zone.offsetAt near.epochSecond → found.isSome = true) := by
  obtain ⟨reading, hreading, hkept⟩ := bind_eq_ok_iff.1 hfound
  obtain ⟨hoffset, -, -⟩ := of_normalize hreading
  have hcivil := civil_eq_iff_of_normalize hreading
  cases hkept
  by_cases hstands : reading.civil = civil
  · rw [if_pos hstands]
    refine ⟨?_, fun _ => rfl⟩
    intro kept hkept
    cases hkept
    exact ⟨by rw [hcivil.1 hstands, hreading], hstands⟩
  · rw [if_neg hstands]
    refine ⟨nofun, fun hsame => ?_⟩
    rw [← hoffset] at hsame
    exact absurd (hcivil.2 hsame) hstands

/-- The readings tried are those of the offsets a day before and a day after, and one that stands is
    kept. -/
theorem of_candidates {zone : MinuteZone} {civil : Civil} {readings : List Reading}
    (hreadings : zone.candidates civil = .ok readings) :
    ∃ dayBefore dayAfter first second, civil.addSeconds (-86400) = .ok dayBefore ∧
      civil.addSeconds 86400 = .ok dayAfter ∧ zone.candidate? civil dayBefore = .ok first ∧
      zone.candidate? civil dayAfter = .ok second ∧
      (∀ reading ∈ readings, reading ∈ first ∨ reading ∈ second) ∧
      (readings = [] → first = none ∧ second = none) := by
  obtain ⟨dayBefore, hbefore, hrest⟩ := bind_eq_ok_iff.1 hreadings
  obtain ⟨first, hfirst, hrest⟩ := bind_eq_ok_iff.1 hrest
  obtain ⟨dayAfter, hafter, hrest⟩ := bind_eq_ok_iff.1 hrest
  obtain ⟨second, hsecond, hkept⟩ := bind_eq_ok_iff.1 hrest
  refine ⟨dayBefore, dayAfter, first, second, hbefore, hafter, hfirst, hsecond, ?_⟩
  cases first with
  | none =>
    cases second with
    | none =>
      cases hkept
      exact ⟨nofun, fun _ => ⟨rfl, rfl⟩⟩
    | some b =>
      cases hkept
      exact ⟨by simp, nofun⟩
  | some a =>
    cases second with
    | none =>
      cases hkept
      exact ⟨by simp, nofun⟩
    | some b =>
      cases hkept
      dsimp only
      split
      · exact ⟨by simp +contextual, nofun⟩
      · split
        · exact ⟨by simp +contextual, nofun⟩
        · exact ⟨by simp +contextual, nofun⟩

theorem stands_of_mem_candidates {zone : MinuteZone} {civil : Civil} {readings : List Reading}
    (hreadings : zone.candidates civil = .ok readings) {reading : Reading} (hmem : reading ∈ readings) :
    zone.Stands civil reading := by
  obtain ⟨_, _, first, second, -, -, hfirst, hsecond, hkept, -⟩ := of_candidates hreadings
  rcases hkept reading hmem with hmem | hmem
  · exact (of_candidate? hfirst).1 reading hmem
  · exact (of_candidate? hsecond).1 reading hmem

/-- The instant of a time that the clock shows is less than a day away from the time taken as universal,
    and the offset then is the one a day before or the one a day after. -/
theorem candidates_ne_nil {zone : MinuteZone} (hregular : zone.IsRegular) {civil : Civil}
    (hshows : zone.Shows civil) {readings : List Reading}
    (hreadings : zone.candidates civil = .ok readings) : readings ≠ [] := by
  intro hnil
  obtain ⟨dayBefore, dayAfter, first, second, hbefore, hafter, hfirst, hsecond, -, hnone⟩ :=
    of_candidates hreadings
  obtain ⟨rfl, rfl⟩ := hnone hnil
  have hbeforeSecond := Civil.epochSecond_of_addSeconds hbefore
  have hafterSecond := Civil.epochSecond_of_addSeconds hafter
  obtain ⟨instant, hinstant⟩ := hshows
  obtain ⟨hge, hle, -⟩ := hregular.offsetAt_between instant
  have hdays : dayAfter.epochSecond ≤ dayBefore.epochSecond + 172800 := by omega
  have hlower : dayBefore.epochSecond ≤ instant := by omega
  have hupper : instant ≤ dayAfter.epochSecond := by omega
  have hkept : ∀ near : Civil, zone.offsetAt instant = zone.offsetAt near.epochSecond →
      zone.offsetAt (civil.epochSecond - zone.offsetAt near.epochSecond) =
        zone.offsetAt near.epochSecond := by
    intro near hsame
    rw [← hsame, ← hinstant, Int.add_sub_cancel]
  rcases hregular.offsetAt_eq_or hlower hupper hdays with hsame | hsame
  · exact absurd ((of_candidate? hfirst).2 (hkept dayBefore hsame)) nofun
  · exact absurd ((of_candidate? hsecond).2 (hkept dayAfter hsame)) nofun

/-- Where a reading stands, the clock is not wound back, and the offset taken is that of a reading. -/
theorem exists_of_offsetOf {zone : MinuteZone} {civil : Civil} {readings : List Reading}
    (hreadings : zone.candidates civil = .ok readings) (hsome : readings ≠ []) {fuel : Nat} {offset : Int}
    (hoffset : zone.offsetOf (fuel + 1) civil = .ok offset) :
    ∃ reading ∈ readings, reading.offset = offset := by
  have hlast : ∀ kept : List Reading, kept ≠ [] → (∀ reading ∈ kept, reading ∈ readings) →
      ∃ reading ∈ readings, reading.offset = ((kept.getLast?.map (·.offset)).getD zone.initial) := by
    intro kept hkept hsub
    rw [List.getLast?_eq_some_getLast hkept]
    exact ⟨_, hsub _ (List.getLast_mem hkept), rfl⟩
  rw [offsetOf] at hoffset
  obtain ⟨found, hfound, htaken⟩ := bind_eq_ok_iff.1 hoffset
  rw [hreadings] at hfound
  cases hfound
  cases readings with
  | nil => exact absurd rfl hsome
  | cons first later =>
    cases later with
    | nil =>
      cases htaken
      exact ⟨first, List.mem_cons_self, rfl⟩
    | cons second more =>
      dsimp only at htaken
      cases hstandard : (first :: second :: more).filter (·.saving = 0) with
      | nil =>
        rw [hstandard] at htaken
        cases htaken
        exact hlast _ hsome fun _ hmem => hmem
      | cons standard rest =>
        have hmem : ∀ reading ∈ standard :: rest, reading ∈ first :: second :: more := by
          intro reading hreading
          rw [← hstandard] at hreading
          exact List.mem_of_mem_filter hreading
        rw [hstandard] at htaken
        cases rest with
        | nil =>
          cases htaken
          exact ⟨standard, hmem standard List.mem_cons_self, rfl⟩
        | cons other rest =>
          cases htaken
          exact hlast _ (List.cons_ne_nil _ _) hmem

/-- A time that the clock shows stays as it is, and no other does. -/
theorem place_civil_eq_iff {zone : MinuteZone} (hregular : zone.IsRegular) {civil : Civil}
    {reading : Reading} (hplace : zone.place civil = .ok reading) :
    reading.civil = civil ↔ zone.Shows civil := by
  unfold place at hplace
  split at hplace
  · next hfixed =>
    cases hplace
    refine iff_of_true rfl ⟨civil.epochSecond - zone.initial, ?_⟩
    rw [hregular.offsetAt_of_isFixed hfixed, Int.sub_add_cancel]
  · next hchanging =>
    obtain ⟨offset, hoffset, hreading⟩ := bind_eq_ok_iff.1 hplace
    constructor
    · intro hcivil
      rw [← hcivil]
      exact shows_of_normalize hreading
    · intro hshows
      rw [localOffset, if_neg hchanging] at hoffset
      obtain ⟨readings, hreadings, -⟩ := bind_eq_ok_iff.1 hoffset
      obtain ⟨kept, hkept, hsame⟩ :=
        exists_of_offsetOf hreadings (candidates_ne_nil hregular hshows hreadings) hoffset
      obtain ⟨hnormal, hcivil⟩ := stands_of_mem_candidates hreadings hkept
      rw [hsame, hreading, Except.ok.injEq] at hnormal
      rw [hnormal, hcivil]

/-- A zone places every time at one that its clock shows. -/
theorem shows_of_place {zone : MinuteZone} (hregular : zone.IsRegular) {civil : Civil} {reading : Reading}
    (hplace : zone.place civil = .ok reading) : zone.Shows reading.civil := by
  have hcivil := place_civil_eq_iff hregular hplace
  unfold place at hplace
  split at hplace
  · cases hplace
    exact hcivil.1 rfl
  · obtain ⟨offset, -, hreading⟩ := bind_eq_ok_iff.1 hplace
    exact shows_of_normalize hreading

/-- Offsets move a time by whole seconds. -/
theorem micro_of_place {zone : MinuteZone} {civil : Civil} {reading : Reading}
    (hplace : zone.place civil = .ok reading) : reading.civil.time.micro = civil.time.micro := by
  unfold place at hplace
  split at hplace
  · cases hplace
    rfl
  · obtain ⟨offset, -, hreading⟩ := bind_eq_ok_iff.1 hplace
    obtain ⟨-, hticks, -⟩ := of_normalize hreading
    have hmicro := civil.time.micro_lt
    have hother := reading.civil.time.micro_lt
    unfold Civil.ticks Civil.ticksPerDay TimeOfDay.ticks at hticks
    omega

/-- The offset that a zone places a time with is one of its own. -/
theorem offset_of_place {zone : MinuteZone} (hregular : zone.IsRegular) {civil : Civil}
    {reading : Reading} (hplace : zone.place civil = .ok reading) :
    -64800 ≤ reading.offset ∧ reading.offset ≤ 64800 ∧ reading.offset % 60 = 0 := by
  unfold place at hplace
  split at hplace
  · cases hplace
    exact hregular.offsets _ List.mem_cons_self
  · obtain ⟨offset, -, hreading⟩ := bind_eq_ok_iff.1 hplace
    rw [(of_normalize hreading).1]
    exact hregular.offsetAt_between _

end MinuteZone

end Recurrence
