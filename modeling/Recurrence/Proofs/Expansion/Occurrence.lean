import Recurrence.Proofs.Calendar.MonthDays
import Recurrence.Proofs.Expansion.Course

namespace Recurrence

theorem Weekday.daysTo_lt (day target : Weekday) : day.daysTo target < 7 :=
  Nat.mod_lt _ (by decide)

namespace Moment

theorem nthWeekday_last (moment : Moment) (day : Weekday) :
    moment.nthWeekday day (-1) =
      (moment.civil.date.lastOfMonth.addDays
        (-(day.daysTo moment.civil.date.lastOfMonth.weekday : Int))).map
          fun date => some (moment.atMidnightOf date) := rfl

/-- The day number that a position of a weekday counts to, from the first of the moment's month. -/
def countedDay (moment : Moment) (day : Weekday) (position : Int) : Int :=
  let first := moment.civil.date.firstOfMonth
  first.dayNumber + (first.weekday.daysTo day + 7 * (position - 1))

theorem nthWeekday_of_pos (moment : Moment) (day : Weekday) {position : Int} (hpos : 0 < position) :
    moment.nthWeekday day position =
      (moment.civil.date.firstOfMonth.addDays
        (moment.civil.date.firstOfMonth.weekday.daysTo day + 7 * (position - 1))).map
          fun date =>
            if date.monthIndex = moment.civil.date.monthIndex then some (moment.atMidnightOf date)
            else none := by
  unfold nthWeekday
  rw [if_neg (by omega), if_pos hpos]
  simp only [← Date.firstOfMonth_monthIndex moment.civil.date, Date.monthIndex_eq_iff]
  rfl

theorem nthWeekday_of_not_pos (moment : Moment) (day : Weekday) {position : Int}
    (hpos : ¬ 0 < position) (hlast : position ≠ -1) : moment.nthWeekday day position = .ok none := by
  unfold nthWeekday
  rw [if_neg hlast, if_neg hpos]

/-- A weekday is picked from the moment's own month, at midnight in its frame. -/
theorem nthWeekday_picks {moment picked : Moment} {day : Weekday} {position : Int}
    (hpick : moment.nthWeekday day position = .ok (some picked)) :
    ∃ date, picked = moment.atMidnightOf date ∧ date.monthIndex = moment.civil.date.monthIndex ∧
      (0 < position → (date.dayNumber : Int) = moment.countedDay day position) := by
  by_cases hlast : position = -1
  · subst hlast
    rw [nthWeekday_last] at hpick
    obtain ⟨date, hadd, hpicked⟩ := map_eq_ok_iff.1 hpick
    cases hpicked
    have hnumber := Date.addDays_eq_ok_iff.1 hadd
    have hback := Weekday.daysTo_lt day moment.civil.date.lastOfMonth.weekday
    have hlength := Date.monthLength_ge moment.civil.date.monthIndex
    rw [Date.lastOfMonth_dayNumber] at hnumber
    refine ⟨date, rfl, ?_, fun hpos => by omega⟩
    exact Date.monthIndex_eq_of_dayNumber (Date.monthIndex_ge _) (by omega) (by omega)
  · by_cases hpos : 0 < position
    · rw [nthWeekday_of_pos moment day hpos] at hpick
      obtain ⟨date, hadd, hpicked⟩ := map_eq_ok_iff.1 hpick
      split at hpicked
      · next hmonth =>
        cases hpicked
        exact ⟨date, rfl, hmonth, fun _ => Date.addDays_eq_ok_iff.1 hadd⟩
      · cases hpicked
    · rw [nthWeekday_of_not_pos moment day hpos hlast] at hpick
      cases hpick

/-- Picking a weekday fails exactly where a position is counted past the calendar. -/
theorem nthWeekday_fails_iff {moment : Moment} {day : Weekday} {position : Int} :
    (∃ cause, moment.nthWeekday day position = .error cause) ↔
      0 < position ∧ (Date.lastDayNumber : Int) < moment.countedDay day position := by
  by_cases hlast : position = -1
  · subst hlast
    have hback := Weekday.daysTo_lt day moment.civil.date.lastOfMonth.weekday
    have hlength := Date.monthLength_ge moment.civil.date.monthIndex
    have hnumber := Date.lastOfMonth_dayNumber moment.civil.date
    have hinside := moment.civil.date.lastOfMonth.dayNumber_le_last
    rw [nthWeekday_last, map_fails_iff, Date.addDays_fails_iff]
    omega
  · by_cases hpos : 0 < position
    · have hfirst := moment.civil.date.firstOfMonth.dayNumber_pos
      rw [nthWeekday_of_pos moment day hpos, map_fails_iff, Date.addDays_fails_iff]
      simp only [countedDay]
      omega
    · rw [nthWeekday_of_not_pos moment day hpos hlast]
      simp [hpos]

/-- Where a position is counted past the calendar, no later month has it: such a position is either
    beyond the fifth or asked of the calendar's last month. -/
theorem not_nthWeekday_of_fails {moment later picked : Moment} {day : Weekday} {position : Int}
    {cause : CalendarError} (hfail : moment.nthWeekday day position = .error cause)
    (hlater : moment.civil.date.monthIndex < later.civil.date.monthIndex) :
    later.nthWeekday day position ≠ .ok (some picked) := by
  intro hpick
  obtain ⟨hpos, hpast⟩ := nthWeekday_fails_iff.1 ⟨cause, hfail⟩
  obtain ⟨date, -, hmonth, hcounted⟩ := nthWeekday_picks hpick
  have hnumber := hcounted hpos
  have hforward := Weekday.daysTo_lt moment.civil.date.firstOfMonth.weekday day
  have hmonths := Date.monthStart_add_length_le moment.civil.date.monthIndex_ge hlater
  have hlength := Date.monthLength_ge moment.civil.date.monthIndex
  have hlaterLength := Date.monthLength_ge later.civil.date.monthIndex
  have hlaterMost := Date.monthLength_le later.civil.date.monthIndex
  have hend := later.civil.date.lastOfMonth.dayNumber_le_last
  have hday := date.day_le_monthLength
  simp only [countedDay, Date.firstOfMonth_dayNumber] at hpast hnumber
  rw [Date.dayNumber_eq, hmonth] at hnumber
  rw [hmonth] at hday
  rw [Date.lastOfMonth_dayNumber] at hend
  omega

end Moment

namespace Rule

/-- The occurrence of a place, if the place has one. -/
def occurrenceAt? (rule : Rule) (place : Moment) : Option Moment :=
  match rule.candidate place with
  | .ok found => found
  | .error _ => none

theorem occurrenceAt?_of_candidate {rule : Rule} {place : Moment} {found : Option Moment}
    (hcandidate : rule.candidate place = .ok found) : rule.occurrenceAt? place = found := by
  rw [occurrenceAt?, hcandidate]

theorem occurrenceAt?_of_failure {rule : Rule} {place : Moment} {cause : CalendarError}
    (hcandidate : rule.candidate place = .error cause) : rule.occurrenceAt? place = none := by
  rw [occurrenceAt?, hcandidate]

/-- A rule that tests each day occurs on the days of its weekdays. -/
theorem candidate_of_usesWeekdays {rule : Rule} (huses : rule.usesWeekdays = true) (place : Moment) :
    rule.candidate place =
      .ok (if place.civil.date.weekday ∈ rule.weekdays then some place else none) := by
  rw [candidate, if_pos huses]

/-- A rule that picks weekdays of months has a first weekday and a first position, and no other
    matters. -/
theorem exists_candidate_of_usesNthWeekday {rule : Rule} (huses : rule.usesNthWeekday = true) :
    ∃ day position, rule.weekdays.head? = some day ∧ rule.positions.head? = some position ∧
      ∀ place, rule.candidate place = place.nthWeekday day position := by
  have hparts := huses
  simp only [usesNthWeekday, Bool.and_eq_true, beq_iff_eq, Bool.not_eq_true',
    List.isEmpty_eq_false_iff] at hparts
  obtain ⟨⟨hmonthly, hdays⟩, hpositions⟩ := hparts
  obtain ⟨day, days, hweekdays⟩ := List.exists_cons_of_ne_nil hdays
  obtain ⟨position, positions, hnumbers⟩ := List.exists_cons_of_ne_nil hpositions
  have hplain : rule.usesWeekdays = false := by
    unfold usesWeekdays
    rw [hmonthly]
    rfl
  refine ⟨day, position, by rw [hweekdays]; rfl, by rw [hnumbers]; rfl, fun place => ?_⟩
  simp only [candidate, hplain, huses, hweekdays, hnumbers, Bool.false_eq_true, if_false, if_true]

/-- Every other rule occurs at each place. -/
theorem candidate_of_plain {rule : Rule} (hweekdays : rule.usesWeekdays = false)
    (hnth : rule.usesNthWeekday = false) (place : Moment) : rule.candidate place = .ok (some place) := by
  simp only [candidate, hweekdays, hnth, Bool.false_eq_true, if_false]

theorem stride_of_usesNthWeekday {rule : Rule} (huses : rule.usesNthWeekday = true) :
    rule.stride = .months rule.effectiveInterval := by
  simp only [usesNthWeekday, Bool.and_eq_true, beq_iff_eq] at huses
  obtain ⟨⟨hmonthly, -⟩, -⟩ := huses
  unfold stride usesWeekdays
  rw [hmonthly]
  rfl

/-- Unless the rule picks weekdays of months, an occurrence is the place that it belongs to. -/
theorem occurrenceAt?_eq_self {rule : Rule} (hnth : rule.usesNthWeekday = false)
    {place occurrence : Moment} (hfound : rule.occurrenceAt? place = some occurrence) :
    occurrence = place := by
  cases hweekdays : rule.usesWeekdays with
  | true =>
    rw [occurrenceAt?_of_candidate (candidate_of_usesWeekdays hweekdays place)] at hfound
    split at hfound
    · exact (Option.some.inj hfound).symm
    · cases hfound
  | false =>
    rw [occurrenceAt?_of_candidate (candidate_of_plain hweekdays hnth place)] at hfound
    exact (Option.some.inj hfound).symm

/-- A picked weekday is midnight of a day in the place's month. -/
theorem occurrenceAt?_of_usesNthWeekday {rule : Rule} (huses : rule.usesNthWeekday = true)
    {place occurrence : Moment} (hfound : rule.occurrenceAt? place = some occurrence) :
    ∃ date, occurrence = place.atMidnightOf date ∧
      date.monthIndex = place.civil.date.monthIndex := by
  obtain ⟨day, position, -, -, hcandidate⟩ := exists_candidate_of_usesNthWeekday huses
  cases hpick : rule.candidate place with
  | error cause =>
    rw [occurrenceAt?_of_failure hpick] at hfound
    cases hfound
  | ok found =>
    rw [occurrenceAt?_of_candidate hpick] at hfound
    rw [hcandidate, hfound] at hpick
    obtain ⟨date, hpicked, hmonth, -⟩ := Moment.nthWeekday_picks hpick
    exact ⟨date, hpicked, hmonth⟩

/-- An occurrence has the index and the frame of its place. -/
theorem index_frame_of_occurrenceAt? {rule : Rule} {place occurrence : Moment}
    (hfound : rule.occurrenceAt? place = some occurrence) :
    rule.stride.index occurrence.civil.date = rule.stride.index place.civil.date ∧
      occurrence.frame = place.frame := by
  cases hnth : rule.usesNthWeekday with
  | true =>
    obtain ⟨date, rfl, hmonth⟩ := occurrenceAt?_of_usesNthWeekday hnth hfound
    rw [stride_of_usesNthWeekday hnth]
    exact ⟨hmonth, rfl⟩
  | false =>
    rw [occurrenceAt?_eq_self hnth hfound]
    exact ⟨rfl, rfl⟩

/-- Where a candidate fails, no place further on has an occurrence. -/
theorem occurrenceAt?_none_of_failure {rule : Rule} {place later : Moment} {cause : CalendarError}
    (hfail : rule.candidate place = .error cause)
    (hlater : rule.stride.index place.civil.date < rule.stride.index later.civil.date) :
    rule.occurrenceAt? later = none := by
  cases hnth : rule.usesNthWeekday with
  | true =>
    obtain ⟨day, position, -, -, hcandidate⟩ := exists_candidate_of_usesNthWeekday hnth
    rw [hcandidate] at hfail
    rw [stride_of_usesNthWeekday hnth] at hlater
    cases hpick : later.nthWeekday day position with
    | error cause => exact occurrenceAt?_of_failure ((hcandidate later).trans hpick)
    | ok found =>
      rw [occurrenceAt?_of_candidate ((hcandidate later).trans hpick)]
      cases found with
      | none => rfl
      | some picked => exact absurd hpick (Moment.not_nthWeekday_of_fails hfail hlater)
  | false =>
    cases hweekdays : rule.usesWeekdays with
    | true =>
      rw [candidate_of_usesWeekdays hweekdays] at hfail
      cases hfail
    | false =>
      rw [candidate_of_plain hweekdays hnth] at hfail
      cases hfail

theorem filterMap_cons_occurrenceAt? {rule : Rule} {place : Moment} {found : Option Moment}
    (hcandidate : rule.candidate place = .ok found) (places : List Moment) :
    (place :: places).filterMap rule.occurrenceAt? =
      found.toList ++ places.filterMap rule.occurrenceAt? := by
  rw [List.filterMap_cons, occurrenceAt?_of_candidate hcandidate]
  cases found <;> rfl

/-- Occurrences keep the order of their places: each has a larger index than every one before it. -/
theorem occurrences_pairwise_index (rule : Rule) (cursor : Moment) :
    ((rule.course cursor).filterMap rule.occurrenceAt?).Pairwise fun earlier later =>
      rule.stride.index earlier.civil.date < rule.stride.index later.civil.date := by
  refine List.Pairwise.filterMap rule.occurrenceAt? ?_ (rule.course_pairwise_index cursor)
  intro earlierPlace laterPlace hplaces earlier hearlier later hlater
  obtain ⟨hfirst, -⟩ := index_frame_of_occurrenceAt? hearlier
  obtain ⟨hsecond, -⟩ := index_frame_of_occurrenceAt? hlater
  rw [hfirst, hsecond]
  exact hplaces

theorem frame_of_mem_occurrences {rule : Rule} {cursor occurrence : Moment}
    (hmem : occurrence ∈ (rule.course cursor).filterMap rule.occurrenceAt?) :
    occurrence.frame = cursor.frame := by
  obtain ⟨place, hplace, hfound⟩ := List.mem_filterMap.1 hmem
  rw [(index_frame_of_occurrenceAt? hfound).2, (time_frame_of_mem_course hplace).2]

end Rule

end Recurrence
