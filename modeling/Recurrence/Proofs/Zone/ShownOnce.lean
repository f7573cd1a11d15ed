import Recurrence.Proofs.Zone.Joined

namespace Recurrence

/-- The years from 1970 on have 365 days or more. -/
theorem le_monthSecond_year (years : Nat) : (years : Int) * 31536000 ≤ monthSecond (12 * (1970 + years)) := by
  have hstart : Date.monthStart (12 * (1970 + years)) = daysBeforeYear (1970 + years) := by
    rw [Date.monthStart, Nat.mul_div_cancel_left _ (by decide), Nat.mul_mod_right]
    rfl
  have hdays : 719162 + years * 365 ≤ daysBeforeYear (1970 + years) := by
    unfold daysBeforeYear
    omega
  unfold monthSecond Civil.epochDay
  rw [hstart]
  omega

namespace Zone

theorem Reaches.of_le {year : Nat} {earlier later : Int} (hreaches : Reaches year later)
    (hle : earlier ≤ later) : Reaches year earlier := by
  unfold Reaches at *
  omega

/-- A year that is not over at a second. -/
def yearAfter (second : Int) : Nat := (second / 31536000).toNat + 1971

theorem reaches_yearAfter (second : Int) : Reaches (yearAfter second) second := by
  have hlater := le_monthSecond_year ((second / 31536000).toNat + 2)
  have hyear : 1970 + ((second / 31536000).toNat + 2) = yearAfter second + 1 := by
    unfold yearAfter
    omega
  rw [hyear] at hlater
  unfold Reaches
  omega

/-- The offset in force at a second, counted from the start of 1970. -/
def offsetAt (zone : Zone) (second : Int) : Int :=
  (phaseBy zone.initial (zone.changesThrough (yearAfter second)) fun change =>
    change.instant ≤ second).offset

/-- Whether the clock of a zone shows a civil time at a second. -/
def ShowsAt (zone : Zone) (second : Int) (civil : Civil) : Prop :=
  second + zone.offsetAt second = civil.epochSecond

/-- Whether the clock of a zone shows a civil time exactly once. -/
def ShowsOnce (zone : Zone) (civil : Civil) : Prop :=
  ∃! second, zone.ShowsAt second civil

variable {zone : Zone} (hjoined : zone.IsJoined)

theorem offsetAt_eq {year : Nat} {second : Int} (hreaches : Reaches year second) :
    zone.offsetAt second = ((zone.timetable hjoined year).phaseAt second).offset := by
  have hown : zone.offsetAt second = ((zone.timetable hjoined (yearAfter second)).phaseAt second).offset := rfl
  rw [hown, ← phaseAt_timetable hjoined (Nat.le_max_left year (yearAfter second)) hreaches,
    phaseAt_timetable hjoined (Nat.le_max_right year (yearAfter second)) (reaches_yearAfter second)]

include hjoined

theorem offsetAt_epochSecond (utc : Civil) : zone.offsetAt utc.epochSecond = (zone.phaseAt utc).offset := by
  rw [offsetAt_eq hjoined (reaches_of_lt (Nat.lt_succ_self _)), phaseAt_eq hjoined (Nat.lt_succ_self _)]

theorem offsetAt_between (second : Int) : -64800 ≤ zone.offsetAt second ∧ zone.offsetAt second ≤ 64800 :=
  (zone.timetable hjoined (yearAfter second)).phaseAt_between second

/-- A time that is shown once means the offset with which it is shown, with either fold. -/
theorem offset_phaseOf_of_showsOnce {civil : Civil} {second : Int} (hshown : zone.ShowsAt second civil)
    (honly : ∀ other, zone.ShowsAt other civil → other = second) (fold : Bool) :
    (zone.phaseOf civil fold).offset = zone.offsetAt second := by
  obtain ⟨year, hlocal, hreaches⟩ : ∃ year, civil.date.year < year ∧ Reaches year (civil.epochSecond + 64800) :=
    ⟨max (civil.date.year + 1) (yearAfter (civil.epochSecond + 64800)), by omega,
      (reaches_yearAfter _).mono (Nat.le_max_right _ _)⟩
  have hnear : ∀ other, (zone.timetable hjoined year).shownAt other = civil.epochSecond →
      zone.ShowsAt other civil := by
    intro other hother
    have hbetween := (zone.timetable hjoined year).phaseAt_between other
    unfold Timetable.shownAt at hother
    rw [ShowsAt, offsetAt_eq hjoined (hreaches.of_le (by omega)), hother]
  have hbetween := offsetAt_between hjoined second
  have hsecond : Reaches year second := by
    unfold ShowsAt at hshown
    exact hreaches.of_le (by omega)
  have hcivil : (zone.timetable hjoined year).shownAt second = civil.epochSecond := by
    rw [Timetable.shownAt, ← offsetAt_eq hjoined hsecond]
    exact hshown
  have honce : ∀ other, (zone.timetable hjoined year).shownAt other =
      (zone.timetable hjoined year).shownAt second → other = second := by
    intro other hother
    exact honly other (hnear other (hother.trans hcivil))
  rw [phaseOf_eq hjoined hlocal, ← hcivil, Timetable.phaseOf_of_shownOnce _ honce, offsetAt_eq hjoined hsecond]

/-- Between two seconds with the same newest change a zone keeps its offset. -/
theorem offsetAt_eq_of_newest?_eq {year : Nat} {first last : Int} (hreaches : Reaches year last)
    (hsame : zone.newest? year (·.instant ≤ first) = zone.newest? year (·.instant ≤ last)) {second : Int}
    (hge : first ≤ second) (hle : second ≤ last) : zone.offsetAt second = zone.offsetAt last := by
  rw [newest?_eq_find?, newest?_eq_find?] at hsame
  rw [offsetAt_eq hjoined (hreaches.of_le hle), offsetAt_eq hjoined hreaches, Timetable.phaseAt,
    (zone.timetable hjoined year).lastAt?_eq_of_between hsame hge hle, Timetable.phaseAt]

/-- A time around which the clocks of a zone do not change for a day and a half is shown once. -/
theorem showsOnce_of_newest?_eq {civil : Civil} {year : Nat} (hreaches : Reaches year (civil.epochSecond + 64800))
    (hsame : zone.newest? year (·.instant ≤ civil.epochSecond - 64800) =
      zone.newest? year (·.instant ≤ civil.epochSecond + 64800)) : zone.ShowsOnce civil := by
  obtain ⟨offset, hoffset⟩ : ∃ offset, ∀ second, civil.epochSecond - 64800 ≤ second →
      second ≤ civil.epochSecond + 64800 → zone.offsetAt second = offset :=
    ⟨_, fun _ hge hle => offsetAt_eq_of_newest?_eq hjoined hreaches hsame hge hle⟩
  have hbetween := offsetAt_between hjoined civil.epochSecond
  rw [hoffset civil.epochSecond (by omega) (by omega)] at hbetween
  refine ⟨civil.epochSecond - offset, ?_, fun other hother => ?_⟩
  · change civil.epochSecond - offset + zone.offsetAt (civil.epochSecond - offset) = civil.epochSecond
    rw [hoffset _ (by omega) (by omega)]
    omega
  · have hown := offsetAt_between hjoined other
    have hshown : other + zone.offsetAt other = civil.epochSecond := hother
    rw [hoffset other (by omega) (by omega)] at hshown
    omega

end Zone

end Recurrence
