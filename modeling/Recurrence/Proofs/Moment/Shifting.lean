import Recurrence.Proofs.Expansion.Course

namespace Recurrence

namespace CalendarUnit

theorem ofName?_name (unit : CalendarUnit) : ofName? unit.name = some unit := by
  cases unit <;> decide

theorem ofName?_eq_none {text : String} (hunknown : ∀ unit : CalendarUnit, unit.name ≠ text) :
    ofName? text = none := by
  unfold ofName?
  rw [List.find?_eq_none]
  intro unit _
  simpa using hunknown unit

end CalendarUnit

namespace Date

/-- Days follow on the day that was reached. -/
theorem addDays_addDays {date middle : Date} {first : Int} (hfirst : date.addDays first = .ok middle)
    (second : Int) : middle.addDays second = date.addDays (first + second) := by
  have hmiddle := addDays_eq_ok_iff.1 hfirst
  simp only [addDays, hmiddle, Int.add_assoc]

/-- Months are added to the number of a date's month; besides it only the date's day plays a part. -/
theorem addMonths_congr {a b : Date} {first second : Int}
    (hmonth : (a.monthIndex : Int) + first = b.monthIndex + second) (hday : a.day = b.day) :
    a.addMonths first = b.addMonths second := by
  simp only [addMonths, hmonth, hday]

/-- Every month has the first 28 days, so that none of these is cut on the way. -/
theorem addMonths_addMonths {date middle : Date} {first : Int}
    (hfirst : date.addMonths first = .ok middle) (hday : date.day ≤ 28) (second : Int) :
    middle.addMonths second = date.addMonths (first + second) := by
  obtain ⟨hmonth, hcut⟩ := addMonths_eq_ok_iff.1 hfirst
  have hlength := monthLength_ge middle.monthIndex
  apply addMonths_congr
  · omega
  · omega

end Date

namespace Moment

variable {moment later middle : Moment} {unit : CalendarUnit} {amount first : Int}

theorem shift_eq_ok_iff : moment.shift unit amount = .ok later ↔
    moment.civil.date.shift unit amount = .ok later.civil.date ∧
      later = moment.onDate later.civil.date := by
  rw [shift_eq, map_eq_ok_iff]
  constructor
  · rintro ⟨date, hdate, rfl⟩
    exact ⟨hdate, rfl⟩
  · rintro ⟨hdate, hlater⟩
    exact ⟨_, hdate, hlater.symm⟩

theorem eq_onDate_iff : later = moment.onDate later.civil.date ↔
    later.civil.time = moment.civil.time ∧ later.frame = moment.frame ∧ later.fold = false := by
  obtain ⟨⟨date, time⟩, frame, fold⟩ := later
  simp [onDate]

/-- Shifts in one unit add up wherever they do so for dates. -/
theorem shift_shift (hfirst : moment.shift unit first = .ok middle) {second : Int}
    (hdate : middle.civil.date.shift unit second = moment.civil.date.shift unit (first + second)) :
    middle.shift unit second = moment.shift unit (first + second) := by
  obtain ⟨-, hmiddle⟩ := shift_eq_ok_iff.1 hfirst
  have hkept : middle.onDate = moment.onDate := by
    rw [hmiddle]
    rfl
  rw [shift_eq, shift_eq, hdate, hkept]

theorem shift_months_eq_ok_iff : moment.shift .months amount = .ok later ↔
    (later.civil.date.monthIndex : Int) = moment.civil.date.monthIndex + amount ∧
      later.civil.date.day =
        min moment.civil.date.day (daysInMonth later.civil.date.year later.civil.date.month) ∧
      later.civil.time = moment.civil.time ∧ later.frame = moment.frame ∧ later.fold = false := by
  rw [shift_eq_ok_iff, eq_onDate_iff, Date.shift_months, Date.addMonths_eq_ok_iff,
    Date.monthLength_monthIndex, and_assoc]

theorem shift_days_eq_ok_iff : moment.shift .days amount = .ok later ↔
    (later.civil.date.dayNumber : Int) = moment.civil.date.dayNumber + amount ∧
      later.civil.time = moment.civil.time ∧ later.frame = moment.frame ∧ later.fold = false := by
  rw [shift_eq_ok_iff, eq_onDate_iff]
  simp only [Date.shift, Date.addDays_eq_ok_iff]

theorem shift_months_fails_iff : (∃ cause, moment.shift .months amount = .error cause) ↔
    ¬ (1 ≤ ((moment.civil.date.monthIndex : Int) + amount) / 12 ∧
      ((moment.civil.date.monthIndex : Int) + amount) / 12 ≤ 9999) := by
  rw [shift_eq, map_fails_iff, Date.shift_months, Date.addMonths_fails_iff]
  unfold Date.endMonth
  omega

theorem shift_days_shift (hfirst : moment.shift .days first = .ok middle) (second : Int) :
    middle.shift .days second = moment.shift .days (first + second) :=
  shift_shift hfirst (Date.addDays_addDays (shift_eq_ok_iff.1 hfirst).1 second)

theorem shift_months_shift (hfirst : moment.shift .months first = .ok middle)
    (hday : moment.civil.date.day ≤ 28) (second : Int) :
    middle.shift .months second = moment.shift .months (first + second) := by
  obtain ⟨hdate, -⟩ := shift_eq_ok_iff.1 hfirst
  rw [Date.shift_months] at hdate
  apply shift_shift hfirst
  rw [Date.shift_months, Date.shift_months]
  exact Date.addMonths_addMonths hdate hday second

theorem shift_years_eq (moment : Moment) (amount : Int) :
    moment.shift .years amount = moment.shift .months (12 * amount) := by
  rw [shift_eq, shift_eq, Date.shift_years, Date.shift_months]

theorem shift_weeks_eq (moment : Moment) (amount : Int) :
    moment.shift .weeks amount = moment.shift .days (7 * amount) := by
  simp only [shift_eq, Date.shift]

/-- Shifts follow one arithmetic. Months lead to the month whose number over all years is larger by the
    amount, on the moment's day or the last one of a shorter month, at its time of day and in its
    frame, and they fail exactly if the year of that month is none of the calendar's. Years are twelve
    months and weeks seven days each. Days are added to the day number. Two shifts of days, of which
    the first one stays in the calendar, are one shift by their sum, failures included, and so are
    two shifts of months from one of the first 28 days of a month. There are no other units. -/
theorem shift_follows_arithmetic (moment : Moment) :
    (∀ amount later, moment.shift .months amount = .ok later ↔
      (later.civil.date.monthIndex : Int) = moment.civil.date.monthIndex + amount ∧
        later.civil.date.day =
          min moment.civil.date.day (daysInMonth later.civil.date.year later.civil.date.month) ∧
        later.civil.time = moment.civil.time ∧ later.frame = moment.frame ∧ later.fold = false) ∧
      (∀ amount, (∃ cause, moment.shift .months amount = .error cause) ↔
        ¬ (1 ≤ ((moment.civil.date.monthIndex : Int) + amount) / 12 ∧
          ((moment.civil.date.monthIndex : Int) + amount) / 12 ≤ 9999)) ∧
      (∀ amount, moment.shift .years amount = moment.shift .months (12 * amount)) ∧
      (∀ amount, moment.shift .weeks amount = moment.shift .days (7 * amount)) ∧
      (∀ amount later, moment.shift .days amount = .ok later ↔
        (later.civil.date.dayNumber : Int) = moment.civil.date.dayNumber + amount ∧
          later.civil.time = moment.civil.time ∧ later.frame = moment.frame ∧ later.fold = false) ∧
      (∀ first second middle, moment.shift .days first = .ok middle →
        middle.shift .days second = moment.shift .days (first + second)) ∧
      (moment.civil.date.day ≤ 28 → ∀ first second middle, moment.shift .months first = .ok middle →
        middle.shift .months second = moment.shift .months (first + second)) ∧
      (∀ unit amount, moment.shiftBy (CalendarUnit.name unit) amount =
        (moment.shift unit amount).mapError .calendar) ∧
      ∀ text amount, (∀ unit : CalendarUnit, unit.name ≠ text) →
        moment.shiftBy text amount = .error (.unknownUnit text) := by
  refine ⟨fun _ _ => shift_months_eq_ok_iff, fun _ => shift_months_fails_iff, shift_years_eq moment,
    shift_weeks_eq moment, fun _ _ => shift_days_eq_ok_iff, fun _ second _ hfirst => ?_,
    fun hday _ second _ hfirst => ?_, fun unit amount => ?_, fun text amount hunknown => ?_⟩
  · exact shift_days_shift hfirst second
  · exact shift_months_shift hfirst hday second
  · simp only [shiftBy, CalendarUnit.ofName?_name]
  · simp only [shiftBy, CalendarUnit.ofName?_eq_none hunknown]

/-- Eleven months back and two years forth from a January, over a February of 28 days. -/
theorem shift_follows_arithmetic_over_february :
    ∃ january february : Civil, Civil.ofFields 2024 1 28 4 45 0 0 = .ok january ∧
      Civil.ofFields 2023 2 28 4 45 0 0 = .ok february ∧
      (utc january).shift .months (-11) = .ok (utc february) ∧
      (utc february).shift .months 24 = (utc january).shift .months 13 ∧
      (utc january).shift .days (-334) = .ok (utc february) ∧
      (utc february).shift .days 400 = (utc january).shift .days 66 ∧
      (∃ cause, (utc january).shift .months (-24288) = .error cause) ∧
      (utc january).shiftBy "hours" 1 = .error (.unknownUnit "hours") := by
  obtain ⟨january, hjanuary⟩ : ∃ january, Civil.ofFields 2024 1 28 4 45 0 0 = .ok january := ⟨_, rfl⟩
  obtain ⟨february, hfebruary⟩ : ∃ february, Civil.ofFields 2023 2 28 4 45 0 0 = .ok february := ⟨_, rfl⟩
  obtain ⟨hmonths, hfails, -, -, hdays, hdaysAdd, hmonthsAdd, -, hunknown⟩ :=
    shift_follows_arithmetic (utc january)
  have hback : (utc january).shift .months (-11) = .ok (utc february) := by
    rw [hmonths]
    cases hjanuary
    cases hfebruary
    decide
  have hdaysBack : (utc january).shift .days (-334) = .ok (utc february) := by
    rw [hdays]
    cases hjanuary
    cases hfebruary
    decide
  have hday : (utc january).civil.date.day ≤ 28 := by
    cases hjanuary
    decide
  have houtside : ∃ cause, (utc january).shift .months (-24288) = .error cause := by
    rw [hfails]
    cases hjanuary
    decide
  exact ⟨january, february, hjanuary, hfebruary, hback, hmonthsAdd hday (-11) 24 _ hback, hdaysBack,
    hdaysAdd (-334) 400 _ hdaysBack, houtside,
    hunknown "hours" 1 fun unit => by cases unit <;> decide⟩

end Moment

end Recurrence
