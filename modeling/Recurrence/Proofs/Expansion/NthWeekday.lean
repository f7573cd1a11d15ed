import Mathlib.Data.List.TakeWhile
import Recurrence.Proofs.Expansion.CalendarEnd

namespace Recurrence

namespace Moment

/-- Counting to a position begins at the first fitting day of the month. -/
theorem countedDay_eq (moment : Moment) (day : Weekday) (position : Int) :
    moment.countedDay day position =
      Date.firstFitting moment.civil.date.monthIndex day + 7 * (position - 1) := by
  unfold countedDay Date.firstFitting Weekday.daysTo Date.weekday
  simp only [Weekday.number_ofNumber, Date.firstOfMonth_dayNumber]
  omega

/-- What is picked from a month is the date at that position among the month's dates on the weekday. -/
theorem nthWeekday_eq {moment : Moment} {day : Weekday} {position : Int} {found : Option Moment}
    (hpick : moment.nthWeekday day position = .ok found) :
    found = (Date.nthWeekday? moment.civil.date.monthIndex day position).map moment.atMidnightOf := by
  have hlow := moment.civil.date.monthIndex_ge
  have hhigh := moment.civil.date.monthIndex_lt
  by_cases hlast : position = -1
  · subst hlast
    rw [nthWeekday_last] at hpick
    obtain ⟨date, hadd, rfl⟩ := map_eq_ok_iff.1 hpick
    have hnumber := Date.addDays_eq_ok_iff.1 hadd
    simp only [Weekday.daysTo, Date.weekday, Weekday.number_ofNumber, Date.lastOfMonth_dayNumber]
      at hnumber
    rw [(Date.nthWeekday?_last_eq_some_iff hlow hhigh).2 (show date.dayNumber + _ = _ by omega)]
    rfl
  · by_cases hpos : 0 < position
    · rw [nthWeekday_of_pos moment day hpos] at hpick
      obtain ⟨date, hadd, rfl⟩ := map_eq_ok_iff.1 hpick
      have hnumber := (Date.addDays_eq_ok_iff.1 hadd).trans (countedDay_eq moment day position)
      split
      · next hmonth =>
        rw [(Date.nthWeekday?_eq_some_iff_of_pos hlow hhigh hpos).2 ⟨hmonth, hnumber⟩]
        rfl
      · next hmonth =>
        -- A date at the position would be the counted one, which is in another month.
        cases hfitting : Date.nthWeekday? moment.civil.date.monthIndex day position with
        | none => rfl
        | some other =>
          obtain ⟨hother, hsame⟩ := (Date.nthWeekday?_eq_some_iff_of_pos hlow hhigh hpos).1 hfitting
          have hdate : date = other := Date.dayNumber_injective (by omega)
          exact absurd (hdate ▸ hother) hmonth
    · rw [nthWeekday_of_not_pos moment day hpos hlast] at hpick
      cases hpick
      rw [Date.nthWeekday?_of_not_pos hpos hlast]
      rfl

theorem nthWeekday?_of_failure {moment : Moment} {day : Weekday} {position : Int}
    {cause : CalendarError} (hfail : moment.nthWeekday day position = .error cause) :
    Date.nthWeekday? moment.civil.date.monthIndex day position = none := by
  obtain ⟨hpos, hpast⟩ := nthWeekday_fails_iff.1 ⟨cause, hfail⟩
  rw [countedDay_eq] at hpast
  have hlow := moment.civil.date.monthIndex_ge
  have hhigh := moment.civil.date.monthIndex_lt
  cases hfitting : Date.nthWeekday? moment.civil.date.monthIndex day position with
  | none => rfl
  | some date =>
    obtain ⟨-, hnumber⟩ := (Date.nthWeekday?_eq_some_iff_of_pos hlow hhigh hpos).1 hfitting
    have hinside := date.dayNumber_le_last
    omega

/-- The index of the month that lies so many intervals of months after the moment's month. -/
def monthAfter (moment : Moment) (interval steps : Nat) : Nat :=
  moment.civil.date.monthIndex + steps * interval

/-- What one month in each interval has on a weekday at a position, for so many months from the moment's month
    on: midnight of that date, in the moment's frame, unless the month has no such date. -/
def nthWeekdays (moment : Moment) (interval : Nat) (day : Weekday) (position : Int) (months : Nat) :
    List Moment :=
  (List.range months).filterMap fun steps =>
    (Date.nthWeekday? (moment.monthAfter interval steps) day position).map moment.atMidnightOf

end Moment

namespace Rule

section

variable {rule : Rule} (huses : rule.usesNthWeekday = true)
include huses

theorem monthIndex_of_course_getElem? {start place : Moment} {step : Nat}
    (hplace : (rule.course start)[step]? = some place) :
    place.civil.date.monthIndex = start.monthAfter rule.effectiveInterval step := by
  have hindex := (course_getElem? hplace).1
  rwa [stride_of_usesNthWeekday huses] at hindex

theorem lt_length_course_iff_monthAfter {start : Moment} {step : Nat} :
    step < (rule.course start).length ↔ start.monthAfter rule.effectiveInterval step < Date.endMonth := by
  rw [lt_length_course_iff, stride_of_usesNthWeekday huses]
  rfl

variable {day : Weekday} {position : Int}
  (hday : rule.weekdays.head? = some day) (hposition : rule.positions.head? = some position)
include hday hposition

theorem candidate_of_usesNthWeekday (place : Moment) :
    rule.candidate place = place.nthWeekday day position := by
  obtain ⟨_, _, hhead, hfirst, hcandidate⟩ := exists_candidate_of_usesNthWeekday huses
  rw [hday, Option.some.injEq] at hhead
  rw [hposition, Option.some.injEq] at hfirst
  subst hhead hfirst
  exact hcandidate place

/-- The occurrence of a place depends on the place's month and frame only. -/
theorem occurrenceAt?_eq_nthWeekday? (place : Moment) :
    rule.occurrenceAt? place =
      (Date.nthWeekday? place.civil.date.monthIndex day position).map place.atMidnightOf := by
  have hcandidate := candidate_of_usesNthWeekday huses hday hposition place
  cases hpick : place.nthWeekday day position with
  | error cause =>
    rw [occurrenceAt?_of_failure (hcandidate.trans hpick), Moment.nthWeekday?_of_failure hpick]
    rfl
  | ok found =>
    rw [occurrenceAt?_of_candidate (hcandidate.trans hpick), Moment.nthWeekday_eq hpick]

theorem staysInside_of_usesNthWeekday {place : Moment} :
    rule.StaysInside place ↔
      place.civil.date.monthIndex + rule.effectiveInterval < Date.endMonth ∧
        (0 < position → Date.firstFitting place.civil.date.monthIndex day + 7 * (position - 1) ≤
          Date.lastDayNumber) := by
  simp only [StaysInside, stride_of_usesNthWeekday huses, Stride.index, Stride.count, Stride.limit,
    huses, hday, hposition, Option.some.injEq, forall_const, Moment.countedDay_eq]
  refine and_congr_right fun _ => ⟨fun hall => hall day position rfl rfl, ?_⟩
  rintro hcounted _ _ rfl rfl
  exact hcounted

/-- The occurrences of the first places are read off the months that the places are in. -/
theorem occurrences_of_course_take (start : Moment) (moves : Nat) :
    ((rule.course start).take moves).filterMap rule.occurrenceAt? =
      start.nthWeekdays rule.effectiveInterval day position moves := by
  rw [course_take, List.filterMap_filterMap]
  refine List.filterMap_congr fun step _ => ?_
  cases hplace : (rule.course start)[step]? with
  | none =>
    -- The calendar has no such month any more.
    have hover := mt (lt_length_course_iff_monthAfter huses).2
      (Nat.not_lt.2 (List.getElem?_eq_none_iff.1 hplace))
    rw [Date.nthWeekday?_of_endMonth_le (Nat.not_lt.1 hover)]
    rfl
  | some place =>
    obtain ⟨-, -, hframe⟩ := course_getElem? hplace
    have hmidnight : place.atMidnightOf = start.atMidnightOf := by
      funext date
      rw [Moment.atMidnightOf, Moment.atMidnightOf, hframe]
    rw [Option.bind_some, occurrenceAt?_eq_nthWeekday? huses hday hposition,
      monthIndex_of_course_getElem? huses hplace, hmidnight]

/-- So is whether the rule stays in the calendar at the places that are looked at for the first occurrences. -/
theorem staysInside_of_course_take_iff (start : Moment) (moves : Nat) (limit : Int) :
    (∀ step place, ((rule.course start).take moves)[step]? = some place →
      (((((rule.course start).take moves).take step).filterMap rule.occurrenceAt?).length : Int) < limit →
        rule.StaysInside place) ↔
      ∀ step < moves, start.monthAfter rule.effectiveInterval step < Date.endMonth →
        ((start.nthWeekdays rule.effectiveInterval day position step).length : Int) < limit →
          start.monthAfter rule.effectiveInterval (step + 1) < Date.endMonth ∧
            (0 < position → Date.firstFitting (start.monthAfter rule.effectiveInterval step) day +
              7 * (position - 1) ≤ Date.lastDayNumber) := by
  have hstays : ∀ {step place}, (rule.course start)[step]? = some place →
      (rule.StaysInside place ↔ start.monthAfter rule.effectiveInterval (step + 1) < Date.endMonth ∧
        (0 < position → Date.firstFitting (start.monthAfter rule.effectiveInterval step) day +
          7 * (position - 1) ≤ Date.lastDayNumber)) := by
    intro step place hplace
    have hnext : start.monthAfter rule.effectiveInterval (step + 1) =
        start.monthAfter rule.effectiveInterval step + rule.effectiveInterval := by
      rw [Moment.monthAfter, Moment.monthAfter, Nat.succ_mul, Nat.add_assoc]
    rw [staysInside_of_usesNthWeekday huses hday hposition,
      monthIndex_of_course_getElem? huses hplace, hnext]
  constructor
  · intro hinside step hstep hmonth hwanted
    have hplace := List.getElem?_eq_getElem ((lt_length_course_iff_monthAfter huses).2 hmonth)
    refine (hstays hplace).1 (hinside step _ ((List.getElem?_take_of_lt hstep).trans hplace) ?_)
    rwa [List.take_take, Nat.min_eq_left (Nat.le_of_lt hstep),
      occurrences_of_course_take huses hday hposition]
  · intro hinside step place htaken hwanted
    obtain ⟨hbelow, -⟩ := List.getElem?_eq_some_iff.1 htaken
    rw [List.length_take, Nat.lt_min] at hbelow
    obtain ⟨hstep, hlength⟩ := hbelow
    have hplace : (rule.course start)[step]? = some place := by
      rwa [List.getElem?_take_of_lt hstep] at htaken
    rw [List.take_take, Nat.min_eq_left (Nat.le_of_lt hstep),
      occurrences_of_course_take huses hday hposition] at hwanted
    exact (hstays hplace).2
      (hinside step hstep ((lt_length_course_iff_monthAfter huses).1 hlength) hwanted)

end

end Rule

namespace Plan

theorem visitsFrom_of_unbound {plan : Plan} (hunbound : plan.bound = none) (cursor : Moment) :
    plan.visitsFrom cursor = plan.rule.course cursor := by
  refine List.takeWhile_eq_self_iff.2 fun place _ => ?_
  rw [admits, hunbound]

theorem visits_of_unbound {plan : Plan} (hunbound : plan.bound = none) :
    plan.visits = plan.rule.course plan.start := visitsFrom_of_unbound hunbound plan.start

/-- A monthly rule with weekdays and positions and without a bound looks at one month in each interval from
    its start's month on, as many as the cap allows; as the cap is tested after a move, a cap
    below one allows one month too. The run finds exactly the dates that the first weekday has at the
    first position in these months, as many as the limit asks for. It gives them if no month is moved to
    and no day is counted to outside the calendar before the limit is met. -/
theorem occurrences_on_nthWeekdays {rule : Rule} {given : Option Threshold} {asked : Option Moment}
    {limits : Limits} {plan : Plan} (hmake : make rule given asked limits = .ok plan)
    {start : Moment} (hstart : rule.start = some start) (hmonthly : rule.frequency = .monthly)
    {day : Weekday} (hday : rule.weekdays.head? = some day) {position : Int}
    (hposition : rule.positions.head? = some position) (hunbound : plan.bound = none)
    {limit cap : Int} (hlimit : plan.limit = .number limit) (hcap : limits.steps = .number cap) :
    let interval := rule.effectiveInterval
    let months := max cap.toNat 1
    plan.run.occurrences = (start.nthWeekdays interval day position months).take limit.toNat ∧
      (plan.run.all = .ok plan.run.occurrences ↔
        ∀ step < months, start.monthAfter interval step < Date.endMonth →
          ((start.nthWeekdays interval day position step).length : Int) < limit →
            start.monthAfter interval (step + 1) < Date.endMonth ∧
              (0 < position → Date.firstFitting (start.monthAfter interval step) day +
                7 * (position - 1) ≤ Date.lastDayNumber)) := by
  intro interval months
  obtain ⟨rfl, hfirst, -, hsteps⟩ := of_make hmake
  obtain rfl : plan.start = start := Option.some.inj (hfirst.symm.trans hstart)
  rw [hcap] at hsteps
  have huses : plan.rule.usesNthWeekday = true := by
    simp only [Rule.usesNthWeekday, hmonthly, Bool.and_eq_true, Bool.not_eq_true', beq_self_eq_true,
      true_and, List.isEmpty_eq_false_iff]
    exact ⟨List.ne_nil_of_mem (List.mem_of_mem_head? hday),
      List.ne_nil_of_mem (List.mem_of_mem_head? hposition)⟩
  have hcomparable : plan.IsComparable plan.start := by
    intro bound hbound
    rw [hunbound] at hbound
    cases hbound
  have hmoves : movesWithin cap = months := rfl
  rw [all_eq_occurrences_iff hlimit hsteps, occurrences_eq hlimit hsteps, visits_of_unbound hunbound,
    hmoves, Rule.staysInside_of_course_take_iff huses hday hposition,
    Rule.occurrences_of_course_take huses hday hposition]
  exact ⟨rfl, and_iff_right fun _ => hcomparable⟩

/-- The fifth Friday of each month that has one. -/
def fifthFridays (start : Moment) : Rule where
  frequency := .monthly
  byWeekday := some [.friday]
  bySetPosition := some [5]
  start := some start

/-- From the end of a January on, whose days later months cut: of five months two have a fifth Friday. -/
theorem fifthFridays_on_nthWeekdays :
    ∃ start march may plan,
      Civil.ofFields 2024 1 31 4 45 0 0 = .ok start ∧ Civil.ofFields 2024 3 29 0 0 0 0 = .ok march ∧
      Civil.ofFields 2024 5 31 0 0 0 0 = .ok may ∧
      make (fifthFridays (.utc start)) (some (.number 2)) none ⟨.number 1000, .number 10⟩ = .ok plan ∧
      (fifthFridays (.utc start)).weekdays.head? = some .friday ∧
      (fifthFridays (.utc start)).positions.head? = some 5 ∧ plan.bound = none ∧
      plan.run.all = .ok [.utc march, .utc may] := by
  obtain ⟨start, hstart⟩ : ∃ start, Civil.ofFields 2024 1 31 4 45 0 0 = .ok start := ⟨_, rfl⟩
  obtain ⟨march, hmarch⟩ : ∃ march, Civil.ofFields 2024 3 29 0 0 0 0 = .ok march := ⟨_, rfl⟩
  obtain ⟨may, hmay⟩ : ∃ may, Civil.ofFields 2024 5 31 0 0 0 0 = .ok may := ⟨_, rfl⟩
  let plan : Plan := ⟨fifthFridays (.utc start), .utc start, .number 2, none, .number 10⟩
  have hmake : make (fifthFridays (.utc start)) (some (.number 2)) none ⟨.number 1000, .number 10⟩ =
      .ok plan := rfl
  obtain ⟨hfound, hgiven⟩ := occurrences_on_nthWeekdays hmake rfl rfl rfl rfl rfl rfl rfl
  have hpicked : plan.run.occurrences = [.utc march, .utc may] := by
    rw [hfound]
    cases hstart
    cases hmarch
    cases hmay
    decide +kernel
  refine ⟨start, march, may, plan, hstart, hmarch, hmay, hmake, rfl, rfl, rfl, ?_⟩
  rw [← hpicked]
  refine hgiven.2 ?_
  cases hstart
  decide +kernel

end Plan

end Recurrence
