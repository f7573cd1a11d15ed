import Mathlib.Data.List.Basic
import Recurrence.Proofs.Expansion.CalendarEnd

namespace Recurrence

namespace Moment

/-- The moment, or the same time of day in the same frame so many days later, if the calendar has that
    day. -/
def daysLater? (moment : Moment) (count : Nat) : Option Moment :=
  if count = 0 then some moment
  else (Date.ofDayNumber? (moment.civil.date.dayNumber + count)).map moment.onDate

end Moment

namespace Rule

theorem course_getElem?_of_days {rule : Rule} {count : Nat} (hstride : rule.stride = .days count)
    (cursor : Moment) (steps : Nat) :
    (rule.course cursor)[steps]? = cursor.daysLater? (steps * count) := by
  cases steps with
  | zero => rw [course_getElem?_zero, Nat.zero_mul, Moment.daysLater?, if_pos rfl]
  | succ steps =>
    have hcount := rule.stride_count_pos
    rw [hstride] at hcount
    have hmoved : (steps + 1) * count ≠ 0 := Nat.mul_ne_zero (Nat.succ_ne_zero steps) (by
      change 1 ≤ count at hcount
      omega)
    rw [Moment.daysLater?, if_neg hmoved]
    cases hplace : (rule.course cursor)[steps + 1]? with
    | none =>
      -- The calendar is over before so many days are.
      have hover := mt lt_length_course_iff.2 (Nat.not_lt.2 (List.getElem?_eq_none_iff.1 hplace))
      simp only [hstride, Stride.index, Stride.count, Stride.limit] at hover
      rw [Date.ofDayNumber?_eq_none_iff.2 (by omega)]
      rfl
    | some place =>
      have hindex := (course_getElem? hplace).1
      simp only [hstride, Stride.index, Stride.count] at hindex
      have hdate := Date.ofDayNumber?_eq_some_iff.2
        (show (place.civil.date.dayNumber : Int) = cursor.civil.date.dayNumber + ↑((steps + 1) * count)
          by omega)
      rw [hdate, Option.map_some, ← course_getElem?_succ hplace]

/-- A rule that tests each day keeps the days of its weekdays. -/
theorem filterMap_occurrenceAt?_of_usesWeekdays {rule : Rule} (huses : rule.usesWeekdays = true)
    (places : List Moment) :
    places.filterMap rule.occurrenceAt? =
      places.filter fun place => place.civil.date.weekday ∈ rule.weekdays := by
  induction places with
  | nil => rfl
  | cons place places ih =>
    have hplace := occurrenceAt?_of_candidate (candidate_of_usesWeekdays huses place)
    by_cases hday : place.civil.date.weekday ∈ rule.weekdays
    · rw [if_pos hday] at hplace
      rw [List.filterMap_cons_some hplace, ih, List.filter_cons_of_pos (by simpa using hday)]
    · rw [if_neg hday] at hplace
      rw [List.filterMap_cons_none hplace, ih, List.filter_cons_of_neg (by simpa using hday)]

theorem staysInside_of_usesWeekdays {rule : Rule} (huses : rule.usesWeekdays = true) {place : Moment} :
    rule.StaysInside place ↔ place.civil.date.dayNumber < Date.lastDayNumber := by
  have hweekly : rule.frequency = .weekly := by
    simp only [usesWeekdays, Bool.and_eq_true, beq_iff_eq] at huses
    exact huses.1
  have hnth : rule.usesNthWeekday = false := by simp [usesNthWeekday, hweekly]
  have hstride : rule.stride = .days 1 := by simp [stride, huses]
  simp only [StaysInside, hstride, hnth, Stride.index, Stride.count, Stride.limit]
  constructor
  · rintro ⟨hroom, -⟩
    omega
  · intro hbefore
    exact ⟨by omega, fun hfalse => absurd hfalse Bool.false_ne_true⟩

end Rule

namespace Plan

/-- A weekly rule with weekdays looks at the days from its start on, one after the other: as many as the cap
    allows, up to the first one past the bound, so that where the bound passes once they are all that it admits.
    Its run finds exactly the first ones of them that fall on its weekdays, as many as the limit asks for. It
    gives them if the bound can be compared with the start and the run need not go on from the last
    day of the calendar. -/
theorem occurrences_on_weekdays {rule : Rule} {given : Option Threshold} {asked : Option Moment}
    {limits : Limits} {plan : Plan} (hmake : make rule given asked limits = .ok plan)
    {start : Moment} (hstart : rule.start = some start) (hweekly : rule.frequency = .weekly)
    (hweekdays : rule.weekdays ≠ []) {limit : Int} {moves : Nat} (hlimit : plan.limit = .number limit)
    (hcap : limits.steps = .number moves) (hmoves : 1 ≤ moves) :
    let days := (List.range moves).filterMap start.daysLater?
    let walked := days.takeWhile plan.admits
    let kept := fun day : Moment => decide (day.civil.date.weekday ∈ rule.weekdays)
    plan.run.occurrences = (walked.filter kept).take limit.toNat ∧
      (plan.BoundPassesOnce → walked = days.filter plan.admits) ∧
      (plan.run.all = .ok plan.run.occurrences ↔
        (0 < limit → plan.IsComparable start) ∧
          ∀ steps day, walked[steps]? = some day → (((walked.take steps).filter kept).length : Int) < limit →
            day.civil.date.dayNumber < Date.lastDayNumber) := by
  intro days walked kept
  obtain ⟨rfl, hfirst, -, hsteps⟩ := of_make hmake
  obtain rfl : plan.start = start := Option.some.inj (hfirst.symm.trans hstart)
  rw [hcap] at hsteps
  have huses : plan.rule.usesWeekdays = true := by simp [Rule.usesWeekdays, hweekly, hweekdays]
  have hstride : plan.rule.stride = .days 1 := by simp [Rule.stride, huses]
  have hwithin : movesWithin moves = moves := by
    unfold movesWithin
    omega
  have hdays : (plan.rule.course plan.start).take moves = days := by
    rw [Rule.course_take]
    refine List.filterMap_congr fun steps _ => ?_
    rw [Rule.course_getElem?_of_days hstride, Nat.mul_one]
  have hwalked : plan.visits.take moves = walked := by
    rw [visits, visitsFrom, List.take_takeWhile, hdays]
  refine ⟨?_, ?_, ?_⟩
  · rw [occurrences_eq hlimit hsteps, hwithin, hwalked,
      Rule.filterMap_occurrenceAt?_of_usesWeekdays huses]
  · intro honce
    refine takeWhile_eq_filter_of_pairwise ?_
    rw [← hdays]
    exact (course_pairwise_admits_of_once honce).sublist (List.take_sublist moves _)
  · rw [all_eq_occurrences_iff hlimit hsteps, hwithin, hwalked]
    simp only [Rule.filterMap_occurrenceAt?_of_usesWeekdays huses,
      Rule.staysInside_of_usesWeekdays huses, kept]

/-- Every Monday, Wednesday and Friday. -/
def everyOtherWorkday (start bound : Moment) : Rule where
  frequency := .weekly
  byWeekday := some [.monday, .wednesday, .friday]
  start := some start
  bound := some bound

/-- From a Sunday to the Friday after it, across the end of a month. -/
theorem everyOtherWorkday_on_weekdays :
    ∃ start bound first second third plan,
      Civil.ofFields 2024 9 29 4 45 0 0 = .ok start ∧ Civil.ofFields 2024 10 4 4 45 0 0 = .ok bound ∧
      Civil.ofFields 2024 9 30 4 45 0 0 = .ok first ∧ Civil.ofFields 2024 10 2 4 45 0 0 = .ok second ∧
      Civil.ofFields 2024 10 4 4 45 0 0 = .ok third ∧
      make (everyOtherWorkday (.utc start) (.utc bound)) none none ⟨.number 5, .number 10⟩ = .ok plan ∧
      plan.rule.weekdays ≠ [] ∧
      plan.run.occurrences = [.utc first, .utc second, .utc third] := by
  obtain ⟨start, hstart⟩ : ∃ start, Civil.ofFields 2024 9 29 4 45 0 0 = .ok start := ⟨_, rfl⟩
  obtain ⟨first, hfirst⟩ : ∃ first, Civil.ofFields 2024 9 30 4 45 0 0 = .ok first := ⟨_, rfl⟩
  obtain ⟨second, hsecond⟩ : ∃ second, Civil.ofFields 2024 10 2 4 45 0 0 = .ok second := ⟨_, rfl⟩
  obtain ⟨third, hthird⟩ : ∃ third, Civil.ofFields 2024 10 4 4 45 0 0 = .ok third := ⟨_, rfl⟩
  have hmake : make (everyOtherWorkday (.utc start) (.utc third)) none none ⟨.number 5, .number 10⟩ =
      .ok ⟨everyOtherWorkday (.utc start) (.utc third), .utc start, .number 5, some (.utc third),
        .number 10⟩ := rfl
  obtain ⟨hfound, -⟩ :=
    occurrences_on_weekdays hmake rfl rfl (List.cons_ne_nil _ _) rfl rfl (by decide)
  refine ⟨start, third, first, second, third, _, hstart, hthird, hfirst, hsecond, hthird, hmake,
    List.cons_ne_nil _ _, ?_⟩
  rw [hfound]
  cases hstart
  cases hfirst
  cases hsecond
  cases hthird
  decide +kernel

end Plan

end Recurrence
