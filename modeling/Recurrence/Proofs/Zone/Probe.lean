import Recurrence.Proofs.Zone.Counted
import Recurrence.Proofs.Zone.Placement

namespace Recurrence

/-- A day with a day before it and a day after it. -/
def Date.IsInner (date : Date) : Prop := 1 < date.dayNumber ∧ date.dayNumber < lastDayNumber

instance (date : Date) : Decidable date.IsInner :=
  inferInstanceAs (Decidable (1 < date.dayNumber ∧ date.dayNumber < Date.lastDayNumber))

namespace Civil

theorem addSeconds_error {civil : Civil} {amount : Int} {cause : CalendarError}
    (hcause : civil.addSeconds amount = .error cause) : cause = .dateOutOfRange := by
  unfold addSeconds addTicks ofTicks at hcause
  split at hcause
  · cases hcause
  · cases hcause
    rfl

theorem exists_addSeconds {civil : Civil} {amount : Int} (hge : ticksPerDay ≤ civil.ticks + amount * 1000000)
    (hlt : civil.ticks + amount * 1000000 < endTick) : ∃ later, civil.addSeconds amount = .ok later := by
  cases hadd : civil.addSeconds amount with
  | ok later => exact ⟨later, rfl⟩
  | error cause =>
    have houtside := ofTicks_fails_iff.1 ⟨cause, hadd⟩
    omega

/-- From an inner day a step of a day at most stays in the calendar. -/
theorem exists_addSeconds_of_isInner {civil : Civil} (hinner : civil.date.IsInner) {amount : Int}
    (hge : -86400 ≤ amount) (hle : amount ≤ 86400) : ∃ later, civil.addSeconds amount = .ok later := by
  have htime := civil.time.ticks_lt
  obtain ⟨hfirst, hlast⟩ := hinner
  apply exists_addSeconds
  · unfold ticks ticksPerDay
    omega
  · unfold ticks endTick ticksPerDay
    omega

/-- There is no day before the first, and none after the last. -/
theorem addSeconds_fails_of_not_isInner {civil : Civil} (hlimit : ¬ civil.date.IsInner) :
    civil.addSeconds (-86400) = .error .dateOutOfRange ∨ civil.addSeconds 86400 = .error .dateOutOfRange := by
  have htime := civil.time.ticks_lt
  have hpos := civil.date.dayNumber_pos
  have hlast := civil.date.dayNumber_le_last
  have hend : civil.date.dayNumber = 1 ∨ civil.date.dayNumber = Date.lastDayNumber := by
    unfold Date.IsInner at hlimit
    omega
  have hfails : ∀ amount : Int, civil.ticks + amount * 1000000 < ticksPerDay ∨
      (endTick : Int) ≤ civil.ticks + amount * 1000000 → civil.addSeconds amount = .error .dateOutOfRange := by
    intro amount houtside
    obtain ⟨cause, hcause⟩ := ofTicks_fails_iff.2 houtside
    rw [← addSeconds_error hcause]
    exact hcause
  rcases hend with hend | hend
  · refine Or.inl (hfails _ (Or.inl ?_))
    unfold ticks ticksPerDay
    omega
  · refine Or.inr (hfails _ (Or.inr ?_))
    unfold ticks endTick ticksPerDay
    omega

end Civil

namespace MinuteZone

variable {zone : MinuteZone} {civil near : Civil}

theorem normalize_error {offset : Int} {cause : CalendarError}
    (hcause : zone.normalize civil offset = .error cause) : cause = .dateOutOfRange := by
  rcases bind_eq_error_iff.1 hcause with hutc | ⟨utc, -, hlocal⟩
  · exact Civil.addSeconds_error hutc
  · rcases bind_eq_error_iff.1 hlocal with hshown | ⟨shown, -, hread⟩
    · exact Civil.addSeconds_error hshown
    · cases hread

theorem candidate?_error {cause : CalendarError} (hcause : zone.candidate? civil near = .error cause) :
    cause = .dateOutOfRange := by
  rcases bind_eq_error_iff.1 hcause with hreading | ⟨reading, -, hkept⟩
  · exact normalize_error hreading
  · cases hkept

/-- On the first and on the last day one of the two tries leaves the calendar. -/
theorem candidates_of_not_isInner (hlimit : ¬ civil.date.IsInner) :
    zone.candidates civil = .error .dateOutOfRange := by
  rcases Civil.addSeconds_fails_of_not_isInner hlimit with hbefore | hafter
  · exact bind_eq_error_iff.2 (Or.inl hbefore)
  · cases hbefore : civil.addSeconds (-86400) with
    | error cause =>
      rw [Civil.addSeconds_error hbefore] at hbefore
      exact bind_eq_error_iff.2 (Or.inl hbefore)
    | ok dayBefore =>
      refine bind_eq_error_iff.2 (Or.inr ⟨dayBefore, hbefore, ?_⟩)
      cases hfirst : zone.candidate? civil dayBefore with
      | error cause =>
        rw [candidate?_error hfirst]
        exact bind_eq_error_iff.2 (Or.inl rfl)
      | ok first =>
        refine bind_eq_error_iff.2 (Or.inr ⟨first, rfl, ?_⟩)
        exact bind_eq_error_iff.2 (Or.inl hafter)

theorem place_of_not_isInner (hchanging : zone.isFixed = false) (hlimit : ¬ civil.date.IsInner) :
    zone.place civil = .error .dateOutOfRange := by
  have hoffset : zone.localOffset civil = .error .dateOutOfRange := by
    rw [localOffset, hchanging, if_neg Bool.false_ne_true, offsetOf, candidates_of_not_isInner hlimit]
    rfl
  rw [place, hchanging, if_neg Bool.false_ne_true, hoffset]
  rfl

section Counted

variable (hregular : zone.IsRegular) (hcounted : zone.IsCounted) (hinner : civil.date.IsInner)

include hregular hcounted hinner

/-- Where the calendar ends, no offset changes, so a try comes back to the time itself. -/
theorem exists_normalize (hge : civil.epochSecond - 86400 ≤ near.epochSecond)
    (hle : near.epochSecond ≤ civil.epochSecond + 86400) :
    ∃ reading, zone.normalize civil (zone.offsetAt near.epochSecond) = .ok reading := by
  have hoffset := hregular.offsetAt_between near.epochSecond
  obtain ⟨utc, hutc⟩ := Civil.exists_addSeconds_of_isInner hinner
    (show -86400 ≤ -zone.offsetAt near.epochSecond by omega) (by omega)
  have hsecond := Civil.epochSecond_of_addSeconds hutc
  have hticks := Civil.addSeconds_eq_ok_iff.1 hutc
  have hother := hregular.offsetAt_between utc.epochSecond
  obtain ⟨shown, hshown⟩ : ∃ shown, utc.addSeconds (zone.offsetAt utc.epochSecond) = .ok shown := by
    by_cases hsame : zone.offsetAt utc.epochSecond = zone.offsetAt near.epochSecond
    · refine ⟨civil, Civil.addSeconds_eq_ok_iff.2 ?_⟩
      rw [hsame]
      omega
    · obtain ⟨hearly, hlate⟩ := hcounted.near_of_offsetAt_ne hsame
      have hcivil := civil.ticks_eq
      have hmicro := civil.time.micro_lt
      unfold firstInstant at hearly
      unfold lastInstant at hlate
      unfold Civil.epochDay at hcivil
      apply Civil.exists_addSeconds
      · unfold Civil.ticksPerDay
        omega
      · unfold Civil.endTick Civil.ticksPerDay Date.lastDayNumber
        omega
  refine ⟨⟨shown, zone.offsetAt utc.epochSecond, zone.savingAt utc.epochSecond⟩, ?_⟩
  exact bind_eq_ok_iff.2 ⟨utc, hutc, bind_eq_ok_iff.2 ⟨shown, hshown, rfl⟩⟩

theorem exists_candidates : ∃ readings, zone.candidates civil = .ok readings := by
  have hcandidate : ∀ amount : Int, -86400 ≤ amount → amount ≤ 86400 →
      ∃ near found, civil.addSeconds amount = .ok near ∧ zone.candidate? civil near = .ok found := by
    intro amount hge hle
    obtain ⟨near, hnear⟩ := Civil.exists_addSeconds_of_isInner hinner hge hle
    have hsecond := Civil.epochSecond_of_addSeconds hnear
    obtain ⟨reading, hreading⟩ := exists_normalize hregular hcounted hinner
      (show civil.epochSecond - 86400 ≤ near.epochSecond by omega) (by omega)
    exact ⟨near, _, hnear, bind_eq_ok_iff.2 ⟨reading, hreading, rfl⟩⟩
  obtain ⟨dayBefore, first, hbefore, hfirst⟩ := hcandidate (-86400) (by decide) (by decide)
  obtain ⟨dayAfter, second, hafter, hsecond⟩ := hcandidate 86400 (by decide) (by decide)
  refine bind_succeeds_iff.2 ⟨dayBefore, hbefore, bind_succeeds_iff.2 ⟨first, hfirst, ?_⟩⟩
  exact bind_succeeds_iff.2 ⟨dayAfter, hafter, bind_succeeds_iff.2 ⟨second, hsecond, _, rfl⟩⟩

end Counted

/-- Where a reading stands, an offset is taken. -/
theorem exists_offsetOf {readings : List Reading} (hreadings : zone.candidates civil = .ok readings)
    (hsome : readings ≠ []) (fuel : Nat) : ∃ offset, zone.offsetOf (fuel + 1) civil = .ok offset := by
  refine bind_succeeds_iff.2 ⟨readings, hreadings, ?_⟩
  cases readings with
  | nil => exact absurd rfl hsome
  | cons first later =>
    cases later with
    | nil => exact ⟨first.offset, rfl⟩
    | cons second more =>
      dsimp only
      split <;> exact ⟨_, rfl⟩

/-- A time that the clock shows is placed as it is, with an offset with which it is shown. -/
theorem exists_place (hregular : zone.IsRegular) (hcounted : zone.IsCounted) (hshows : zone.Shows civil)
    (hroom : zone.isFixed = true ∨ civil.date.IsInner) :
    ∃ reading, zone.place civil = .ok reading ∧ reading.civil = civil ∧
      zone.offsetAt (civil.epochSecond - reading.offset) = reading.offset := by
  cases hfixed : zone.isFixed with
  | true =>
    refine ⟨⟨civil, zone.initial, 0⟩, ?_, rfl, hregular.offsetAt_of_isFixed hfixed _⟩
    rw [place, hfixed, if_pos rfl]
  | false =>
    have hinner := hroom.resolve_left (by rw [hfixed]; exact Bool.false_ne_true)
    obtain ⟨readings, hreadings⟩ := exists_candidates hregular hcounted hinner
    have hsome := candidates_ne_nil hregular hshows hreadings
    obtain ⟨offset, hoffset⟩ := exists_offsetOf hreadings hsome (4 * civil.date.dayNumber + 3)
    obtain ⟨reading, hmem, rfl⟩ := exists_of_offsetOf hreadings hsome hoffset
    obtain ⟨hnormal, hcivil⟩ := stands_of_mem_candidates hreadings hmem
    refine ⟨reading, ?_, hcivil, (of_normalize hnormal).1.symm⟩
    rw [place, hfixed, if_neg Bool.false_ne_true, localOffset, hfixed, if_neg Bool.false_ne_true]
    exact bind_eq_ok_iff.2 ⟨reading.offset, hoffset, hnormal⟩

end MinuteZone

end Recurrence
