import Recurrence.Proofs.Zone.Listed
import Recurrence.Proofs.Zone.Placement

namespace Recurrence

namespace TargetZone

/-- Whether a time can be pinned in the zone as it is. -/
def Takes : TargetZone → Civil → Prop
  | .exact _, _ => True
  | .lenient zone, civil => zone.Shows civil

end TargetZone

namespace Moment

variable {zones : ZoneDatabase} {moment shown pinned : Moment} {zone : MinuteZone}

/-- A zone with a short table shows a moment on its own clock. -/
theorem frame_of_toZone_lenient (hsound : zones.IsSound) (hknown : moment.frame.IsKnown zones)
    (hnamed : (TargetZone.lenient zone).IsNamed zones)
    (hshown : moment.toZone (.lenient zone) = .ok shown) :
    ∃ offset, shown.frame = .anchored zone offset := by
  unfold toZone at hshown
  split at hshown
  · next hhome =>
    cases hshown
    unfold isIn at hhome
    cases hframe : moment.frame with
    | anchored here offset =>
      rw [hframe] at hhome hknown
      obtain ⟨name, hnamed⟩ := hnamed
      obtain ⟨other, hother⟩ := hknown
      have hname : here.name = zone.name := by simpa using (Bool.and_eq_true_iff.1 hhome).2
      rw [hsound.eq_of_looselyNamed hother hnamed hname]
      exact ⟨offset, rfl⟩
    | _ =>
      rw [hframe] at hhome
      cases hhome
  · obtain ⟨utc, -, hlocal⟩ := bind_eq_ok_iff.1 hshown
    obtain ⟨reading, -, hread⟩ := bind_eq_ok_iff.1 hlocal
    cases hread
    exact ⟨reading.offset, rfl⟩

/-- Pinning there places the time of day on the date that is shown. -/
theorem pin_lenient_eq_ok (hsound : zones.IsSound) (hknown : moment.frame.IsKnown zones)
    (hnamed : (TargetZone.lenient zone).IsNamed zones) {time : TimeOfDay}
    (hpinned : moment.pin (.lenient zone) time = .ok pinned) :
    ∃ shown reading, moment.toZone (.lenient zone) = .ok shown ∧
      zone.place ⟨shown.civil.date, time.wholeSecond⟩ = .ok reading ∧
      pinned = ⟨reading.civil, .anchored zone reading.offset, false⟩ := by
  obtain ⟨shown, hshown, hset⟩ := bind_eq_ok_iff.1 hpinned
  obtain ⟨offset, hframe⟩ := frame_of_toZone_lenient hsound hknown hnamed hshown
  unfold setWallClock at hset
  rw [hframe] at hset
  obtain ⟨reading, hreading, hread⟩ := bind_eq_ok_iff.1 hset
  cases hread
  exact ⟨shown, reading, hshown, hreading, rfl⟩

/-- A pinned moment has the date that the zone's clock shows and the asked time of day, to the second,
    exactly if the zone takes that time on that date. -/
theorem pin_civil_eq_iff (hsound : zones.IsSound) {name : String} {target : TargetZone}
    (hfound : zones.search name = .ok target) (hknown : moment.frame.IsKnown zones) {time : TimeOfDay}
    (hpinned : moment.pin target time = .ok pinned) :
    ∃ shown, moment.toZone target = .ok shown ∧ target.Takes pinned.civil ∧
      (pinned.civil = ⟨shown.civil.date, time.wholeSecond⟩ ↔
        target.Takes ⟨shown.civil.date, time.wholeSecond⟩) := by
  have hnamed := ZoneDatabase.isNamed_of_search hfound
  cases target with
  | exact zone =>
    rw [pin_exact] at hpinned
    obtain ⟨shown, hshown, rfl⟩ := map_eq_ok_iff.1 hpinned
    exact ⟨shown, hshown, trivial, iff_of_true rfl trivial⟩
  | lenient zone =>
    obtain ⟨shown, reading, hshown, hplace, rfl⟩ := pin_lenient_eq_ok hsound hknown hnamed hpinned
    obtain ⟨name, hzone⟩ := hnamed
    have hregular := hsound.isRegular hzone
    exact ⟨shown, hshown, MinuteZone.shows_of_place hregular hplace,
      MinuteZone.place_civil_eq_iff hregular hplace⟩

/-- Half past midnight. -/
def halfPastMidnight : TimeOfDay := { TimeOfDay.midnight with minute := 30, minute_lt := by decide }

/-- On the day when the clocks of Tokyo first went forward, from midnight to one, half past midnight is
    skipped and becomes half past one. -/
theorem pin_skipped_in_tokyo :
    ∃ evening target pinned shown, Civil.ofFields 1948 5 1 20 0 0 0 = .ok evening ∧
      ZoneDatabase.listed.search "asia/tokyo" = .ok target ∧ (utc evening).frame.IsKnown .listed ∧
      (utc evening).pin target halfPastMidnight = .ok pinned ∧ pinned.civil.time.hour = 1 ∧
      (utc evening).toZone target = .ok shown ∧ target.Takes pinned.civil ∧
      ¬ target.Takes ⟨shown.civil.date, halfPastMidnight.wholeSecond⟩ := by
  have hfound : ZoneDatabase.listed.search "asia/tokyo" = .ok (.lenient (MinuteZone.ofZone Zone.Table.tokyo)) :=
    toOption_eq_some_iff.1 (by decide +kernel)
  obtain ⟨evening, pinned, hevening, hpinned, hhour⟩ : ∃ evening pinned,
      Civil.ofFields 1948 5 1 20 0 0 0 = .ok evening ∧
        (utc evening).pin (.lenient (MinuteZone.ofZone Zone.Table.tokyo)) halfPastMidnight = .ok pinned ∧
        pinned.civil.time.hour = 1 :=
    ⟨_, _, rfl, rfl, by decide +kernel⟩
  have hknown : (utc evening).frame.IsKnown .listed := trivial
  obtain ⟨shown, hshown, htakes, hcivil⟩ := pin_civil_eq_iff ZoneDatabase.isSound_listed hfound hknown hpinned
  refine ⟨evening, _, pinned, shown, hevening, hfound, hknown, hpinned, hhour, hshown, htakes, ?_⟩
  rw [← hcivil]
  intro hmidnight
  rw [hmidnight] at hhour
  cases hhour

end Moment

end Recurrence
