import Recurrence.Proofs.Expansion.NthWeekday

namespace Recurrence

/-- How many of successive numbers leave a rest by seven: none before the first one that does, then one
    more in each week. -/
theorem countP_mod_seven {rest : Nat} (hrest : rest < 7) (start count : Nat) :
    (List.range' start count).countP (fun number => number % 7 = rest) =
      (count + 6 - (rest + 7 - start % 7) % 7) / 7 := by
  induction count with
  | zero =>
    rw [List.range'_zero, List.countP_nil]
    omega
  | succ count ih =>
    rw [List.range'_concat, List.countP_append, ih, Nat.one_mul]
    by_cases hfits : (start + count) % 7 = rest
    · rw [List.countP_cons_of_pos (by simpa using hfits), List.countP_nil]
      omega
    · rw [List.countP_cons_of_neg (by simpa using hfits), List.countP_nil]
      omega

namespace Date

/-- How many days of the date's month, up to the date itself, fall on the date's weekday. -/
def weekdayPlace (date : Date) : Nat :=
  ((ofMonth date.monthIndex).take date.day).countP fun other => other.weekday = date.weekday

/-- The first day of a month on a weekday has the first place, and each week adds one. -/
theorem dayNumber_of_weekdayPlace (date : Date) :
    1 ≤ date.weekdayPlace ∧
      date.dayNumber + 7 = firstFitting date.monthIndex date.weekday + 7 * date.weekdayPlace := by
  have hnumber := dayNumber_eq date
  have hday := date.day_pos
  have hfits := weekday_eq_iff.1 (rfl : date.weekday = date.weekday)
  have hweekday := date.weekday.number_lt
  have hplace : date.weekdayPlace =
      (List.range' (monthStart date.monthIndex + 1) date.day).countP
        fun number => number % 7 = date.weekday.number := by
    rw [← List.take_range'_of_length_ge date.day_le_monthLength,
      ← map_dayNumber_ofMonth date.monthIndex_ge date.monthIndex_lt, ← List.map_take, List.countP_map]
    simp only [weekdayPlace, weekday_eq_iff, Function.comp_def]
  rw [countP_mod_seven hweekday] at hplace
  unfold firstFitting
  omega

theorem weekdayPlace_le_five (date : Date) : date.weekdayPlace ≤ 5 := by
  obtain ⟨-, hplace⟩ := dayNumber_of_weekdayPlace date
  have hnumber := dayNumber_eq date
  have hday := date.day_le_monthLength
  have hlength := monthLength_le date.monthIndex
  unfold firstFitting at hplace
  omega

section

variable {date : Date} {index : Nat} (hmonth : date.monthIndex = index)
include hmonth

/-- The date at a position counted from the front has this position as its place. -/
theorem nthWeekday?_eq_some_iff_weekdayPlace {day : Weekday} {position : Int} (hpos : 0 < position) :
    nthWeekday? index day position = some date ↔
      date.weekday = day ∧ (date.weekdayPlace : Int) = position := by
  subst hmonth
  rw [nthWeekday?_eq_some_iff_of_pos date.monthIndex_ge date.monthIndex_lt hpos]
  obtain ⟨hfirst, hplace⟩ := dayNumber_of_weekdayPlace date
  constructor
  · rintro ⟨-, hnumber⟩
    have hweekday : date.weekday = day := by
      have hbelow := day.number_lt
      rw [weekday_eq_iff]
      unfold firstFitting at hnumber
      omega
    subst hweekday
    exact ⟨rfl, by omega⟩
  · rintro ⟨rfl, hposition⟩
    exact ⟨rfl, by omega⟩

/-- The last date of a month on a weekday is the one that no other such date of the month comes after. -/
theorem nthWeekday?_last_eq_some_iff_forall {day : Weekday} :
    nthWeekday? index day (-1) = some date ↔
      date.weekday = day ∧
        ∀ other : Date, other.monthIndex = index → other.weekday = day → other.day ≤ date.day := by
  subst hmonth
  have hbelow := day.number_lt
  have hnumber := dayNumber_eq date
  constructor
  · intro hlast
    rw [nthWeekday?_last_eq_some_iff date.monthIndex_ge date.monthIndex_lt] at hlast
    refine ⟨weekday_eq_iff.2 (by omega), fun other hother hweekday => ?_⟩
    have hfits := weekday_eq_iff.1 hweekday
    have hplace := dayNumber_eq other
    have hend := other.day_le_monthLength
    rw [hother] at hplace hend
    omega
  · rintro ⟨hweekday, hlatest⟩
    obtain ⟨last, hlast⟩ := exists_nthWeekday? date day (Or.inl (rfl : (-1 : Int) = -1))
    have hback := hlast
    rw [nthWeekday?_last_eq_some_iff date.monthIndex_ge date.monthIndex_lt] at hback
    have hlength := monthLength_ge date.monthIndex
    have hsame : last.monthIndex = date.monthIndex :=
      monthIndex_eq_of_dayNumber date.monthIndex_ge (by omega) (by omega)
    have hlate := hlatest last hsame (weekday_eq_iff.2 (by omega))
    have hearly : date.day ≤ last.day := by
      have hfits := weekday_eq_iff.1 hweekday
      have hend := date.day_le_monthLength
      have hplace := dayNumber_eq last
      rw [hsame] at hplace
      omega
    rw [hlast, ext_of_monthIndex hsame (Nat.le_antisymm hlate hearly)]

end

/-- The date is a day of the month with an index and falls on a weekday. -/
structure IsOn (date : Date) (month : Nat) (day : Weekday) : Prop where
  month : date.monthIndex = month
  weekday : date.weekday = day

/-- Of two dates of a month on one weekday the later one has the later place. -/
theorem IsOn.weekdayPlace_le {a b : Date} {month : Nat} {day : Weekday} (ha : a.IsOn month day)
    (hb : b.IsOn month day) (hle : a.day ≤ b.day) : a.weekdayPlace ≤ b.weekdayPlace := by
  obtain ⟨-, hfirst⟩ := dayNumber_of_weekdayPlace a
  obtain ⟨-, hsecond⟩ := dayNumber_of_weekdayPlace b
  rw [dayNumber_eq, ha.month, ha.weekday] at hfirst
  rw [dayNumber_eq, hb.month, hb.weekday] at hsecond
  omega

theorem isOn_of_nthWeekday? {date found : Date} {day : Weekday} {position : Int}
    (hfound : nthWeekday? date.monthIndex day position = some found) :
    found.IsOn date.monthIndex day := by
  unfold nthWeekday? at hfound
  have hfitting : found ∈ (ofMonth date.monthIndex).filter fun other => other.weekday = day := by
    split at hfound
    · exact List.mem_of_mem_getLast? hfound
    · split at hfound
      · exact List.mem_of_getElem? hfound
      · cases hfound
  obtain ⟨hmem, hweekday⟩ := List.mem_filter.1 hfitting
  have hnumber : found.dayNumber ∈ (ofMonth date.monthIndex).map dayNumber := List.mem_map_of_mem hmem
  rw [map_dayNumber_ofMonth date.monthIndex_ge date.monthIndex_lt, List.mem_range'_1] at hnumber
  exact ⟨monthIndex_eq_of_dayNumber date.monthIndex_ge (by omega) (by omega), by simpa using hweekday⟩

/-- Counting to a position, a week for each place after the first day of the month on a weekday, leads past
    the end of the calendar. -/
def CountsPast (month : Nat) (day : Weekday) (position : Int) : Prop :=
  ∃ first : Date, first.IsOn month day ∧ first.weekdayPlace = 1 ∧
    (lastDayNumber : Int) < first.dayNumber + 7 * (position - 1)

theorem countsPast_iff (date : Date) (day : Weekday) (position : Int) :
    CountsPast date.monthIndex day position ↔
      (lastDayNumber : Int) < firstFitting date.monthIndex day + 7 * (position - 1) := by
  constructor
  · rintro ⟨first, ⟨hmonth, rfl⟩, hplace, hpast⟩
    obtain ⟨-, hnumber⟩ := dayNumber_of_weekdayPlace first
    rw [hmonth] at hnumber
    omega
  · intro hpast
    obtain ⟨first, hfirst⟩ :=
      exists_nthWeekday? date day (Or.inr (by decide : (1 : Int) ≤ 1 ∧ (1 : Int) ≤ 4))
    have hon := isOn_of_nthWeekday? hfirst
    obtain ⟨hweekday, hplace⟩ := (nthWeekday?_eq_some_iff_weekdayPlace hon.month (by omega)).1 hfirst
    obtain ⟨-, hnumber⟩ := dayNumber_of_weekdayPlace first
    rw [hon.month, hweekday] at hnumber
    exact ⟨first, hon, by omega, by omega⟩

theorem addDays_error {date : Date} {amount : Int} {cause : CalendarError}
    (hadd : date.addDays amount = .error cause) : cause = .dateOutOfRange := by
  unfold addDays at hadd
  split at hadd
  · cases hadd
  · cases hadd
    rfl

end Date

namespace Moment

variable {moment : Moment} {day : Weekday} {position : Int}

theorem nthWeekday_error {cause : CalendarError} (hfail : moment.nthWeekday day position = .error cause) :
    cause = .dateOutOfRange := by
  by_cases hlast : position = -1
  · subst hlast
    rw [nthWeekday_last, map_eq_error_iff] at hfail
    exact Date.addDays_error hfail
  · by_cases hpos : 0 < position
    · rw [nthWeekday_of_pos moment day hpos, map_eq_error_iff] at hfail
      exact Date.addDays_error hfail
    · rw [nthWeekday_of_not_pos moment day hpos hlast] at hfail
      cases hfail

theorem nthWeekday_eq_error_iff {cause : CalendarError} :
    moment.nthWeekday day position = .error cause ↔
      cause = .dateOutOfRange ∧ 0 < position ∧
        Date.CountsPast moment.civil.date.monthIndex day position := by
  rw [Date.countsPast_iff, ← countedDay_eq, ← nthWeekday_fails_iff]
  constructor
  · intro hfail
    exact ⟨nthWeekday_error hfail, cause, hfail⟩
  · rintro ⟨rfl, other, hfail⟩
    rw [hfail, nthWeekday_error hfail]

/-- Where counting stays in the calendar, what is picked is read off the month's dates. -/
theorem nthWeekday_eq_ok_iff {found : Option Moment} :
    moment.nthWeekday day position = .ok found ↔
      found = (Date.nthWeekday? moment.civil.date.monthIndex day position).map moment.atMidnightOf ∧
        ¬ (0 < position ∧ Date.CountsPast moment.civil.date.monthIndex day position) := by
  constructor
  · intro hpick
    refine ⟨nthWeekday_eq hpick, fun hpast => ?_⟩
    rw [nthWeekday_eq_error_iff.2 ⟨rfl, hpast⟩] at hpick
    cases hpick
  · rintro ⟨rfl, hinside⟩
    cases hpick : moment.nthWeekday day position with
    | error cause => exact absurd (nthWeekday_eq_error_iff.1 hpick).2 hinside
    | ok other => rw [nthWeekday_eq hpick]

/-- A date of the month at a place is counted to without leaving the calendar. -/
theorem nthWeekday_of_isOn {date : Date} (hon : date.IsOn moment.civil.date.monthIndex day) :
    moment.nthWeekday day date.weekdayPlace = .ok (some (moment.atMidnightOf date)) := by
  obtain ⟨hfirst, hnumber⟩ := Date.dayNumber_of_weekdayPlace date
  have hinside := date.dayNumber_le_last
  have hpos : (0 : Int) < date.weekdayPlace := by omega
  rw [hon.month, hon.weekday] at hnumber
  rw [nthWeekday_eq_ok_iff,
    (Date.nthWeekday?_eq_some_iff_weekdayPlace hon.month hpos).2 ⟨hon.weekday, rfl⟩,
    Date.countsPast_iff]
  exact ⟨rfl, by omega⟩

/-- Nothing is picked at a position that no date of the month has as its place. -/
theorem nthWeekday_eq_none_iff (hpos : 0 < position) :
    moment.nthWeekday day position = .ok none ↔
      (∀ date : Date, date.IsOn moment.civil.date.monthIndex day → (date.weekdayPlace : Int) ≠ position) ∧
        ¬ Date.CountsPast moment.civil.date.monthIndex day position := by
  rw [nthWeekday_eq_ok_iff, eq_comm, Option.map_eq_none_iff]
  simp only [hpos, true_and]
  refine and_congr_left fun _ => ⟨fun hnone date hon hplace => ?_, fun hall => ?_⟩
  · rw [(Date.nthWeekday?_eq_some_iff_weekdayPlace hon.month hpos).2 ⟨hon.weekday, hplace⟩] at hnone
    cases hnone
  · cases hfound : Date.nthWeekday? moment.civil.date.monthIndex day position with
    | none => rfl
    | some date =>
      have hon := Date.isOn_of_nthWeekday? hfound
      exact absurd ((Date.nthWeekday?_eq_some_iff_weekdayPlace hon.month hpos).1 hfound).2 (hall date hon)

/-- A date that comes after all other days of the month on the weekday is picked from the end. -/
theorem exists_nthWeekday_last (moment : Moment) (day : Weekday) :
    ∃ last : Date, last.IsOn moment.civil.date.monthIndex day ∧
      (∀ other : Date, other.IsOn moment.civil.date.monthIndex day → other.day ≤ last.day) ∧
      moment.nthWeekday day (-1) = .ok (some (moment.atMidnightOf last)) := by
  obtain ⟨last, hlast⟩ := Date.exists_nthWeekday? moment.civil.date day (Or.inl (rfl : (-1 : Int) = -1))
  have hon := Date.isOn_of_nthWeekday? hlast
  obtain ⟨-, hlatest⟩ := (Date.nthWeekday?_last_eq_some_iff_forall hon.month).1 hlast
  refine ⟨last, hon, fun other hother => hlatest other hother.month hother.weekday, ?_⟩
  rw [nthWeekday_eq_ok_iff, hlast]
  exact ⟨rfl, by omega⟩

/-- Only the moment's month and frame play a part. -/
theorem nthWeekday_congr {other : Moment} (hframe : other.frame = moment.frame)
    (hmonth : other.civil.date.monthIndex = moment.civil.date.monthIndex) (day : Weekday)
    (position : Int) : other.nthWeekday day position = moment.nthWeekday day position := by
  have hmidnight : other.atMidnightOf = moment.atMidnightOf := by
    funext date
    rw [atMidnightOf, atMidnightOf, hframe]
  cases hpick : moment.nthWeekday day position with
  | error cause =>
    rw [nthWeekday_eq_error_iff, ← hmonth] at hpick
    exact nthWeekday_eq_error_iff.2 hpick
  | ok found =>
    rw [nthWeekday_eq_ok_iff, ← hmonth, ← hmidnight] at hpick
    exact nthWeekday_eq_ok_iff.2 hpick

/-- Whatever is picked at a position is a date of the month on the weekday. -/
theorem exists_isOn_of_nthWeekday {picked : Moment}
    (hpick : moment.nthWeekday day position = .ok (some picked)) (hpos : 0 < position) :
    ∃ date : Date, date.IsOn moment.civil.date.monthIndex day ∧ (date.weekdayPlace : Int) = position := by
  obtain ⟨hfound, -⟩ := nthWeekday_eq_ok_iff.1 hpick
  obtain ⟨date, hdate, -⟩ := Option.map_eq_some_iff.1 hfound.symm
  have hon := Date.isOn_of_nthWeekday? hdate
  exact ⟨date, hon, ((Date.nthWeekday?_eq_some_iff_weekdayPlace hon.month hpos).1 hdate).2⟩

/-- The choice of a weekday in a moment's month is exact. No position other than -1 picks anything unless it
    is positive. The position -1 picks midnight of the last day on the weekday, which is also the day
    at the largest position that has one, the fourth or the fifth. A positive position picks
    midnight of the day that has it as its place, and nothing in a month without such a day. The only
    failure is to count past the end of the calendar, and nothing but the moment's month and its
    frame plays a part. -/
theorem nthWeekday_exact (moment : Moment) (day : Weekday) :
    let month := moment.civil.date.monthIndex
    (∀ position : Int, position = 0 ∨ position < -1 → moment.nthWeekday day position = .ok none) ∧
      (∃ last : Date, last.IsOn month day ∧
        (∀ other : Date, other.IsOn month day → other.day ≤ last.day) ∧
        moment.nthWeekday day (-1) = .ok (some (moment.atMidnightOf last)) ∧
        (last.weekdayPlace = 4 ∨ last.weekdayPlace = 5) ∧
        moment.nthWeekday day last.weekdayPlace = moment.nthWeekday day (-1) ∧
        ∀ position picked, moment.nthWeekday day position = .ok (some picked) →
          position ≤ last.weekdayPlace) ∧
      (∀ position : Int, 0 < position →
        (∀ date : Date, date.IsOn month day → (date.weekdayPlace : Int) = position →
          moment.nthWeekday day position = .ok (some (moment.atMidnightOf date))) ∧
        (moment.nthWeekday day position = .ok none ↔
          (∀ date : Date, date.IsOn month day → (date.weekdayPlace : Int) ≠ position) ∧
            ¬ Date.CountsPast month day position)) ∧
      (∀ position cause, moment.nthWeekday day position = .error cause ↔
        cause = .dateOutOfRange ∧ 0 < position ∧ Date.CountsPast month day position) ∧
      ∀ other : Moment, other.frame = moment.frame → other.civil.date.monthIndex = month →
        ∀ position, other.nthWeekday day position = moment.nthWeekday day position := by
  intro month
  obtain ⟨last, hon, hlatest, hlast⟩ := exists_nthWeekday_last moment day
  have hplaced := nthWeekday_of_isOn hon
  refine ⟨fun position hposition => ?_, ⟨last, hon, hlatest, hlast, ?_, ?_, ?_⟩, ?_, ?_, ?_⟩
  · exact nthWeekday_of_not_pos moment day (by omega) (by omega)
  · -- The fourth one is there, and the last one does not come before it.
    obtain ⟨fourth, hfourth⟩ :=
      Date.exists_nthWeekday? moment.civil.date day (Or.inr (by decide : (1 : Int) ≤ 4 ∧ (4 : Int) ≤ 4))
    have hearly := Date.isOn_of_nthWeekday? hfourth
    obtain ⟨-, hplace⟩ :=
      (Date.nthWeekday?_eq_some_iff_weekdayPlace hearly.month (by omega)).1 hfourth
    have hle := hearly.weekdayPlace_le hon (hlatest fourth hearly)
    have hfive := last.weekdayPlace_le_five
    omega
  · rw [hplaced, hlast]
  · intro position picked hpick
    by_cases hpos : 0 < position
    · obtain ⟨date, hdate, hplace⟩ := exists_isOn_of_nthWeekday hpick hpos
      have hle := hdate.weekdayPlace_le hon (hlatest date hdate)
      omega
    · omega
  · intro position hpos
    refine ⟨fun date hdate hplace => ?_, nthWeekday_eq_none_iff hpos⟩
    rw [← hplace]
    exact nthWeekday_of_isOn hdate
  · exact fun position cause => nthWeekday_eq_error_iff
  · exact fun other hframe hmonth position => nthWeekday_congr hframe hmonth day position

/-- A February of 29 days that begins on a Thursday ends on its fifth one. -/
theorem nthWeekday_exact_leapMonth :
    ∃ civil fifth : Civil, Civil.ofFields 2024 2 10 4 45 0 0 = .ok civil ∧
      Civil.ofFields 2024 2 29 0 0 0 0 = .ok fifth ∧
      fifth.date.IsOn civil.date.monthIndex .thursday ∧ fifth.date.weekdayPlace = 5 ∧
      (utc civil).nthWeekday .thursday 5 = .ok (some (utc fifth)) ∧
      (utc civil).nthWeekday .thursday (-1) = .ok (some (utc fifth)) ∧
      (utc civil).nthWeekday .thursday 0 = .ok none := by
  obtain ⟨civil, hcivil⟩ : ∃ civil, Civil.ofFields 2024 2 10 4 45 0 0 = .ok civil := ⟨_, rfl⟩
  obtain ⟨fifth, hfifth⟩ : ∃ fifth, Civil.ofFields 2024 2 29 0 0 0 0 = .ok fifth := ⟨_, rfl⟩
  have hon : fifth.date.IsOn civil.date.monthIndex .thursday := by
    cases hcivil
    cases hfifth
    exact ⟨by decide, by decide⟩
  have hplace : fifth.date.weekdayPlace = 5 := by
    cases hfifth
    decide +kernel
  have hmidnight : (utc civil).atMidnightOf fifth.date = utc fifth := by
    cases hfifth
    rfl
  obtain ⟨hnone, ⟨last, -, -, -, hfour, hlast, hlargest⟩, hpick, -, -⟩ :=
    nthWeekday_exact (utc civil) .thursday
  have hpicked := (hpick 5 (by decide)).1 fifth.date hon (by rw [hplace]; rfl)
  have hfive : last.weekdayPlace = 5 := by
    have hle := hlargest 5 _ hpicked
    omega
  rw [hmidnight] at hpicked
  rw [hfive] at hlast
  exact ⟨civil, fifth, hcivil, hfifth, hon, hplace, hpicked, hlast.symm.trans hpicked,
    hnone 0 (Or.inl rfl)⟩

end Moment

end Recurrence
