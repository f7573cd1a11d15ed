import Recurrence.Proofs.Moment.Order
import Recurrence.Proofs.Moment.SameDate

namespace Recurrence

/-- What a zone's clock shows at an instant means, with the fold it is shown with, the phase in force then. -/
theorem Zone.phaseOf_of_shown {zone : Zone} (hjoined : zone.IsJoined) {utc civil : Civil}
    (hcivil : utc.addSeconds (zone.phaseAt utc).offset = .ok civil) :
    zone.phaseOf civil (zone.foldAt utc) = zone.phaseAt utc := by
  obtain ⟨year, hutc, hlocal⟩ : ∃ year, utc.date.year < year ∧ civil.date.year < year :=
    ⟨max utc.date.year civil.date.year + 1, by omega, by omega⟩
  have hsecond := Civil.epochSecond_of_addSeconds hcivil
  rw [phaseAt_eq hjoined hutc] at hsecond ⊢
  rw [phaseOf_eq hjoined hlocal, foldAt_eq hjoined hutc, hsecond]
  exact (zone.timetable hjoined year).phaseOf_shownAt utc.epochSecond

namespace TargetZone

variable {zones : ZoneDatabase} {target : TargetZone} {utc : Civil} {shown : Moment}

/-- The local moment of an instant means this instant. -/
theorem toUtc_of_ofUtc (hsound : zones.IsSound) (hnamed : target.IsNamed zones)
    (hshown : target.ofUtc utc = .ok shown) :
    shown.toUtc = .ok utc := by
  unfold Moment.toUtc
  rw [Civil.addSeconds_eq_ok_iff]
  cases target with
  | exact zone =>
    obtain ⟨name, hzone⟩ := hnamed
    obtain ⟨civil, hcivil, hmade⟩ := bind_eq_ok_iff.1 hshown
    cases hmade
    have hticks := Civil.addSeconds_eq_ok_iff.1 hcivil
    have hphase := Zone.phaseOf_of_shown (hsound.isJoined hzone) hcivil
    simp only [Moment.offset?, Option.getD_some, hphase]
    omega
  | lenient zone =>
    obtain ⟨reading, hreading, hmade⟩ := bind_eq_ok_iff.1 hshown
    obtain ⟨civil, hcivil, hread⟩ := bind_eq_ok_iff.1 hreading
    cases hread
    cases hmade
    have hticks := Civil.addSeconds_eq_ok_iff.1 hcivil
    simp only [Moment.offset?, Option.getD_some]
    omega

end TargetZone

namespace Moment

variable {zones : ZoneDatabase} {moment shown : Moment} {here target : TargetZone} {utc : Civil}

/-- Whether a zone on whose clock the moment is already shows it there at the instant that it means. -/
def SitsIn (moment : Moment) (target : TargetZone) : Prop :=
  moment.isIn target = true → ∃ utc, moment.toUtc = .ok utc ∧ target.ofUtc utc = .ok moment

theorem isIn_of_isSteady (hsteady : moment.frame.IsSteady) (target : TargetZone) :
    moment.isIn target = false := by
  unfold isIn
  cases hframe : moment.frame with
  | floating => rfl
  | fixed offset => rfl
  | zoned zone =>
    rw [hframe] at hsteady
    exact hsteady.elim
  | anchored zone offset =>
    rw [hframe] at hsteady
    exact hsteady.elim

theorem sitsIn_of_isSteady (hsteady : moment.frame.IsSteady) (target : TargetZone) : moment.SitsIn target := by
  intro hhome
  rw [isIn_of_isSteady hsteady] at hhome
  cases hhome

/-- A moment that a zone shows is only on the clock of this zone. -/
theorem eq_of_isIn (hsound : zones.IsSound) (hhere : here.IsNamed zones) (hnamed : target.IsNamed zones)
    (hshown : here.ofUtc utc = .ok shown) (hhome : shown.isIn target = true) : here = target := by
  cases here with
  | exact zone =>
    obtain ⟨civil, -, hmade⟩ := bind_eq_ok_iff.1 hshown
    cases hmade
    cases target with
    | exact other =>
      obtain ⟨name, hzone⟩ := hhere
      obtain ⟨otherName, hother⟩ := hnamed
      rw [hsound.eq_of_named hzone hother (by simpa [isIn] using hhome)]
    | lenient other => cases hhome
  | lenient zone =>
    obtain ⟨reading, -, hmade⟩ := bind_eq_ok_iff.1 hshown
    cases hmade
    cases target with
    | exact other => cases hhome
    | lenient other =>
      obtain ⟨name, hzone⟩ := hhere
      obtain ⟨otherName, hother⟩ := hnamed
      obtain ⟨-, hname⟩ := Bool.and_eq_true_iff.1 hhome
      rw [hsound.eq_of_looselyNamed hzone hother (by simpa using hname)]

theorem sitsIn_of_ofUtc (hsound : zones.IsSound) (hhere : here.IsNamed zones)
    (hnamed : target.IsNamed zones) (hshown : here.ofUtc utc = .ok shown) : shown.SitsIn target := by
  intro hhome
  obtain rfl := eq_of_isIn hsound hhere hnamed hshown hhome
  exact ⟨utc, TargetZone.toUtc_of_ofUtc hsound hhere hshown, hshown⟩

/-- A zone shows a moment as it shows the moment's instant. -/
theorem toZone_eq_ofUtc (hsits : moment.SitsIn target) (hutc : moment.toUtc = .ok utc) :
    moment.toZone target = target.ofUtc utc := by
  unfold toZone
  split
  · next hhome =>
    obtain ⟨other, hother, hshown⟩ := hsits hhome
    rw [hutc, Except.ok.injEq] at hother
    rw [hother, hshown]
  · rw [hutc]
    rfl

theorem exists_utc_of_toZone (hsits : moment.SitsIn target) (hshown : moment.toZone target = .ok shown) :
    ∃ utc, moment.toUtc = .ok utc ∧ target.ofUtc utc = .ok shown := by
  cases hhome : moment.isIn target with
  | true =>
    rw [toZone, if_pos hhome] at hshown
    cases hshown
    exact hsits hhome
  | false =>
    rw [toZone, hhome] at hshown
    exact bind_eq_ok_iff.1 hshown

/-- On the way to a zone, a moment that is given in universal time, with an offset or without one may be shown in
    any other zone first, and no zone that shows it moves its instant. -/
theorem toZone_toZone (hsound : zones.IsSound) {nameA nameB : String} {a b : TargetZone}
    (ha : zones.search nameA = .ok a) (hb : zones.search nameB = .ok b) (hsteady : moment.frame.IsSteady)
    (hshown : moment.toZone a = .ok shown) :
    shown.toZone b = moment.toZone b ∧ shown.instantTick = moment.instantTick := by
  have hnamedA := ZoneDatabase.isNamed_of_search ha
  have hnamedB := ZoneDatabase.isNamed_of_search hb
  obtain ⟨utc, hutc, hlocal⟩ := exists_utc_of_toZone (sitsIn_of_isSteady hsteady a) hshown
  have hback := TargetZone.toUtc_of_ofUtc hsound hnamedA hlocal
  constructor
  · rw [toZone_eq_ofUtc (sitsIn_of_ofUtc hsound hnamedA hnamedB hlocal) hback,
      toZone_eq_ofUtc (sitsIn_of_isSteady hsteady b) hutc]
  · rw [← toUtc_eq_ok_iff.1 hback, toUtc_eq_ok_iff.1 hutc]

/-- In the hour that New York repeats, the second half past one is half past three in the afternoon in Tokyo, and
    it stays the same instant. -/
theorem toZone_tokyo_from_newYork :
    ∃ halfPastSix shown there, Civil.ofFields 2024 11 3 6 30 0 0 = .ok halfPastSix ∧
      ZoneDatabase.listed.search "America/New_York" = .ok (.exact Zone.Table.newYork) ∧
      ZoneDatabase.listed.search "asia/tokyo" = .ok (.lenient (MinuteZone.ofZone Zone.Table.tokyo)) ∧
      (Moment.utc halfPastSix).frame.IsSteady ∧
      (Moment.utc halfPastSix).toZone (.exact Zone.Table.newYork) = .ok shown ∧ shown.civil.time.hour = 1 ∧
      shown.fold = true ∧ shown.toZone (.lenient (MinuteZone.ofZone Zone.Table.tokyo)) = .ok there ∧
      there.civil.time.hour = 15 ∧ shown.instantTick = (Moment.utc halfPastSix).instantTick := by
  have hnewYork : ZoneDatabase.listed.search "America/New_York" = .ok (.exact Zone.Table.newYork) :=
    toOption_eq_some_iff.1 (by decide +kernel)
  have htokyo : ZoneDatabase.listed.search "asia/tokyo" = .ok (.lenient (MinuteZone.ofZone Zone.Table.tokyo)) :=
    toOption_eq_some_iff.1 (by decide +kernel)
  obtain ⟨halfPastSix, shown, there, hinstant, hshown, hthere, hpass, hhour⟩ :
      ∃ halfPastSix shown there, Civil.ofFields 2024 11 3 6 30 0 0 = .ok halfPastSix ∧
        (Moment.utc halfPastSix).toZone (.exact Zone.Table.newYork) = .ok shown ∧
        (Moment.utc halfPastSix).toZone (.lenient (MinuteZone.ofZone Zone.Table.tokyo)) = .ok there ∧
        (shown.civil.time.hour = 1 ∧ shown.fold = true) ∧ there.civil.time.hour = 15 :=
    ⟨_, _, _, rfl, rfl, rfl, by decide +kernel, by decide +kernel⟩
  have hsteady : (Moment.utc halfPastSix).frame.IsSteady := trivial
  obtain ⟨hsame, htick⟩ := toZone_toZone ZoneDatabase.isSound_listed hnewYork htokyo hsteady hshown
  exact ⟨halfPastSix, shown, there, hinstant, hnewYork, htokyo, hsteady, hshown, hpass.1, hpass.2,
    hsame.trans hthere, hhour, htick⟩

end Moment

end Recurrence
