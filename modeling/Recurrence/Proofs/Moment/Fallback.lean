import Recurrence.Proofs.Moment.Route
import Recurrence.Proofs.Zone.Probe

namespace Recurrence

variable {zones : ZoneDatabase} {zone : Zone} {table : MinuteZone} {civil : Civil} {second : Int}

/-- A time that the clock of a zone shows once is placed in a table of the zone's offsets as it is, with the offset
    with which the zone shows it. -/
theorem MinuteZone.place_of_showsOnce (hregular : table.IsRegular) (hcounted : table.IsCounted)
    (hjoined : zone.IsJoined) (hshares : zone.Shares table civil) (hshown : zone.ShowsAt second civil)
    (honly : ∀ other, zone.ShowsAt other civil → other = second)
    (hroom : table.isFixed = true ∨ civil.date.IsInner) :
    ∃ reading, table.place civil = .ok reading ∧ reading.civil = civil ∧
      reading.offset = zone.offsetAt second := by
  have hbetween := Zone.offsetAt_between hjoined second
  unfold Zone.ShowsAt at hshown honly
  have hshows : table.Shows civil := by
    refine ⟨second, ?_⟩
    rw [hshares second (by omega) (by omega), hshown]
  obtain ⟨reading, hplace, hcivil, hoffset⟩ := exists_place hregular hcounted hshows hroom
  have hown := offset_of_place hregular hplace
  rw [hshares _ (by omega) (by omega)] at hoffset
  have hsame := honly (civil.epochSecond - reading.offset) (by rw [hoffset]; omega)
  exact ⟨reading, hplace, hcivil, by omega⟩

theorem TargetZone.epochSecond_of_ofUtc_exact {utc : Civil} {shown : Moment} (hjoined : zone.IsJoined)
    (hshown : (TargetZone.exact zone).ofUtc utc = .ok shown) :
    shown.frame = .zoned zone ∧ shown.civil.epochSecond = utc.epochSecond + zone.offsetAt utc.epochSecond := by
  obtain ⟨civil, hcivil, hmade⟩ := bind_eq_ok_iff.1 hshown
  cases hmade
  refine ⟨rfl, ?_⟩
  rw [Zone.offsetAt_epochSecond hjoined, ← Civil.epochSecond_of_addSeconds hcivil]

/-- A table that has a zone's offset at an instant shows there what the zone shows. -/
theorem TargetZone.ofUtc_lenient_of_offsetAt_eq {utc : Civil} {shown : Moment} (hjoined : zone.IsJoined)
    (hsame : table.offsetAt utc.epochSecond = zone.offsetAt utc.epochSecond)
    (hshown : (TargetZone.exact zone).ofUtc utc = .ok shown) :
    (TargetZone.lenient table).ofUtc utc =
      .ok ⟨shown.civil, .anchored table (table.offsetAt utc.epochSecond), false⟩ := by
  obtain ⟨civil, hcivil, hmade⟩ := bind_eq_ok_iff.1 hshown
  cases hmade
  rw [← Zone.offsetAt_epochSecond hjoined, ← hsame] at hcivil
  exact bind_eq_ok_iff.2 ⟨_, bind_eq_ok_iff.2 ⟨civil, hcivil, rfl⟩, rfl⟩

/-- Two times of one date are less than a day apart. -/
theorem Civil.epochSecond_lt_of_date_eq {a b : Civil} (hdate : a.date = b.date) :
    a.epochSecond < b.epochSecond + 86400 := by
  have htime := a.time.ticks_lt
  unfold TimeOfDay.ticks at htime
  unfold epochSecond
  rw [hdate]
  omega

namespace Projection

variable {moment shown : Moment} {offset : Int} {time : TimeOfDay}

/-- A projection to a short table writes the reading that the table gives the time of day on the date shown. -/
theorem project_lenient_of_toZone (hshown : moment.toZone (.lenient table) = .ok shown)
    (hframe : shown.frame = .anchored table offset) (time : TimeOfDay) :
    project ⟨.lenient table, time⟩ moment = (table.place (shown.atClock time).civil).map fun reading =>
      reading.civil.stem ++ offsetText reading.offset := by
  have hpin : moment.pin (.lenient table) time = shown.setWallClock time := by
    unfold Moment.pin
    rw [hshown]
    rfl
  rw [project, pin, hpin, Moment.setWallClock, hframe]
  unfold Moment.atClock
  dsimp only
  cases table.place ⟨shown.civil.date, time.wholeSecond⟩ with
  | error cause => rfl
  | ok reading => exact congrArg Except.ok (Moment.render_of_offset rfl)

/-- The zone takes the offset of a time that its clock shows once from the clock. -/
theorem project_exact_of_showsAt (hjoined : zone.IsJoined) (hshown : moment.toZone (.exact zone) = .ok shown)
    (hframe : shown.frame = .zoned zone) (hsecond : zone.ShowsAt second (shown.atClock time).civil)
    (honly : ∀ other, zone.ShowsAt other (shown.atClock time).civil → other = second) :
    project ⟨.exact zone, time⟩ moment =
      .ok ((shown.atClock time).civil.stem ++ offsetText (zone.offsetAt second)) := by
  rw [project_exact_of_frame hshown hframe, Zone.offset_phaseOf_of_showsOnce hjoined hsecond honly]

/-- The table finds the same offset, unless it has no day to try. -/
theorem project_lenient_of_showsAt (hregular : table.IsRegular) (hcounted : table.IsCounted)
    (hjoined : zone.IsJoined) (hshown : moment.toZone (.lenient table) = .ok shown)
    (hframe : shown.frame = .anchored table offset) (hshares : zone.Shares table (shown.atClock time).civil)
    (hsecond : zone.ShowsAt second (shown.atClock time).civil)
    (honly : ∀ other, zone.ShowsAt other (shown.atClock time).civil → other = second) :
    project ⟨.lenient table, time⟩ moment =
      if table.isFixed = false ∧ ¬ shown.civil.date.IsInner then .error .dateOutOfRange
      else .ok ((shown.atClock time).civil.stem ++ offsetText (zone.offsetAt second)) := by
  rw [project_lenient_of_toZone hshown hframe time]
  split
  · next hlimit =>
    have hfails : table.place (shown.atClock time).civil = .error .dateOutOfRange :=
      MinuteZone.place_of_not_isInner hlimit.1 hlimit.2
    rw [hfails]
    rfl
  · next hinside =>
    have hroom : table.isFixed = true ∨ (shown.atClock time).civil.date.IsInner := by
      by_cases hfixed : table.isFixed = true
      · exact Or.inl hfixed
      · exact Or.inr (Decidable.byContradiction fun hlimit => hinside ⟨eq_false_of_ne_true hfixed, hlimit⟩)
    obtain ⟨reading, hplace, hcivil, hoffset⟩ := MinuteZone.place_of_showsOnce hregular hcounted hjoined
      hshares hsecond honly hroom
    rw [hplace, Except.map, hcivil, hoffset]

/-- A time of day that the clock of a zone shows exactly once on the date of a moment is written with the offset
    with which it is shown, whether the zone is projected to or a short table that has its offsets around that
    time. Only a table whose offset changes fails, and only on the first and on the last day of the calendar. -/
theorem project_of_showsOnce (hsound : zones.IsSound) {name spelling : String}
    (hzone : zones.named? name = some zone) (htable : zones.looselyNamed? spelling = some table)
    (hexact : moment.SitsIn (.exact zone)) (hlenient : moment.SitsIn (.lenient table))
    (hshown : moment.toZone (.exact zone) = .ok shown)
    (hshares : zone.Shares table (shown.atClock time).civil)
    (honce : zone.ShowsOnce (shown.atClock time).civil) :
    ∃ second text, zone.ShowsAt second (shown.atClock time).civil ∧
      text = (shown.atClock time).civil.stem ++ offsetText (zone.offsetAt second) ∧
      project ⟨.exact zone, time⟩ moment = .ok text ∧
      project ⟨.lenient table, time⟩ moment =
        if table.isFixed = false ∧ ¬ shown.civil.date.IsInner then .error .dateOutOfRange else .ok text := by
  have hjoined := hsound.isJoined hzone
  obtain ⟨second, hsecond, honly⟩ := honce
  obtain ⟨utc, hutc, hlocal⟩ := Moment.exists_utc_of_toZone hexact hshown
  obtain ⟨hframe, hcivil⟩ := TargetZone.epochSecond_of_ofUtc_exact hjoined hlocal
  have hnear : table.offsetAt utc.epochSecond = zone.offsetAt utc.epochSecond := by
    have hbetween := Zone.offsetAt_between hjoined utc.epochSecond
    have hlower : (shown.atClock time).civil.epochSecond < shown.civil.epochSecond + 86400 :=
      Civil.epochSecond_lt_of_date_eq rfl
    have hupper : shown.civil.epochSecond < (shown.atClock time).civil.epochSecond + 86400 :=
      Civil.epochSecond_lt_of_date_eq rfl
    exact hshares _ (by omega) (by omega)
  have hanchored := TargetZone.ofUtc_lenient_of_offsetAt_eq hjoined hnear hlocal
  rw [← Moment.toZone_eq_ofUtc hlenient hutc] at hanchored
  have htext := project_exact_of_showsAt hjoined hshown hframe hsecond honly
  have hsame := project_lenient_of_showsAt (hsound.isRegular htable) (hsound.isCounted htable) hjoined hanchored rfl
    hshares hsecond honly
  exact ⟨second, _, hsecond, rfl, htext, hsame⟩

/-- On a day in June on which the clocks of Los Angeles do not change, nine o'clock is written alike with the zone
    and with its short table. -/
theorem project_june_in_losAngeles :
    ∃ noon shown second text, Civil.ofFields 2024 6 15 19 0 0 0 = .ok noon ∧
      ZoneDatabase.listed.named? "America/Los_Angeles" = some Zone.Table.losAngeles ∧
      ZoneDatabase.listed.looselyNamed? "america/los_angeles" = some (.ofZone Zone.Table.losAngeles) ∧
      (Moment.utc noon).SitsIn (.exact Zone.Table.losAngeles) ∧
      (Moment.utc noon).SitsIn (.lenient (.ofZone Zone.Table.losAngeles)) ∧
      (Moment.utc noon).toZone (.exact Zone.Table.losAngeles) = .ok shown ∧
      Zone.Table.losAngeles.Shares (.ofZone Zone.Table.losAngeles) (shown.atClock nineOClock).civil ∧
      Zone.Table.losAngeles.ShowsOnce (shown.atClock nineOClock).civil ∧
      Zone.Table.losAngeles.ShowsAt second (shown.atClock nineOClock).civil ∧
      project ⟨.exact Zone.Table.losAngeles, nineOClock⟩ (.utc noon) = .ok text ∧
      project ⟨.lenient (.ofZone Zone.Table.losAngeles), nineOClock⟩ (.utc noon) = .ok text := by
  have hzone : ZoneDatabase.listed.named? "America/Los_Angeles" = some Zone.Table.losAngeles := by decide +kernel
  have htable : ZoneDatabase.listed.looselyNamed? "america/los_angeles" = some (.ofZone Zone.Table.losAngeles) := by
    decide +kernel
  have hjoined := ZoneDatabase.isSound_listed.isJoined hzone
  obtain ⟨noon, shown, hnoon, hshown, hlocal, hinner⟩ : ∃ noon shown,
      Civil.ofFields 2024 6 15 19 0 0 0 = .ok noon ∧
      (Moment.utc noon).toZone (.exact Zone.Table.losAngeles) = .ok shown ∧
      (shown.atClock nineOClock).civil.epochSecond = 1718442000 ∧ shown.civil.date.IsInner :=
    ⟨_, _, rfl, rfl, by decide +kernel, by decide +kernel⟩
  have hsteady : (Moment.utc noon).frame.IsSteady := trivial
  have hexact := Moment.sitsIn_of_isSteady hsteady (.exact Zone.Table.losAngeles)
  have hlenient := Moment.sitsIn_of_isSteady hsteady (.lenient (.ofZone Zone.Table.losAngeles))
  have hshares :
      Zone.Table.losAngeles.Shares (.ofZone Zone.Table.losAngeles) (shown.atClock nineOClock).civil := by
    apply Zone.shares_ofZone hjoined
    · rw [hlocal]
      decide
    · rw [hlocal]
      decide +kernel
    · rw [hlocal]
      intro second hlower hupper
      rw [@Zone.offsetAt_eq_of_newest?_eq _ hjoined 2025 _ _ (by decide +kernel) (by decide +kernel) _ hlower hupper]
      decide +kernel
  have honce : Zone.Table.losAngeles.ShowsOnce (shown.atClock nineOClock).civil := by
    refine @Zone.showsOnce_of_newest?_eq _ hjoined _ 2025 ?_ ?_
    · rw [hlocal]
      decide +kernel
    · rw [hlocal]
      decide +kernel
  obtain ⟨second, text, hsecond, -, htext, hsame⟩ :=
    project_of_showsOnce ZoneDatabase.isSound_listed hzone htable hexact hlenient hshown hshares honce
  rw [if_neg fun hlimit => hlimit.2 hinner] at hsame
  exact ⟨noon, shown, second, text, hnoon, hzone, htable, hexact, hlenient, hshown, hshares, honce, hsecond,
    htext, hsame⟩

/-- On the last morning of the calendar the clock of Tokyo shows nine o'clock, and its short table gives no text. -/
example : ∃ morning, Civil.ofFields 9999 12 31 3 0 0 0 = .ok morning ∧
    (project ⟨.exact Zone.Table.tokyo, nineOClock⟩ (.utc morning)).toOption =
      some "9999-12-31T09:00:00.000+09:00" ∧
    (project ⟨.lenient (.ofZone Zone.Table.tokyo), nineOClock⟩ (.utc morning)).toOption = none :=
  ⟨_, rfl, by decide +kernel, by decide +kernel⟩

end Projection

end Recurrence
