import Mathlib.Data.List.Basic
import Recurrence.Proofs.Expansion.Departure

namespace Recurrence

namespace Moment

/-- Whether a moment is neither before a start nor after a bound. -/
def isWithin (moment start bound : Moment) : Bool :=
  start.isAfter? moment == some false && moment.isAfter? bound == some false

end Moment

namespace Rule

/-- No place of a course from a steady start comes before it. -/
theorem not_isAfter?_of_mem_course {rule : Rule} {start place : Moment}
    (hsteady : start.frame.IsSteady) (hplace : place ∈ rule.course start) :
    start.isAfter? place = some false := by
  obtain ⟨steps, hsteps⟩ := List.getElem?_of_mem hplace
  obtain ⟨hindex, htime, hframe⟩ := course_getElem? hsteps
  rw [Moment.isAfter?_of_isSteady hframe.symm (by rw [hframe]; exact hsteady), Option.some.injEq,
    decide_eq_false_iff_not]
  intro hbefore
  have hticks : place.civil.ticks < start.civil.ticks := hbefore
  cases steps with
  | zero =>
    rw [course, List.getElem?_cons_zero] at hsteps
    cases hsteps
    exact Nat.lt_irrefl _ hticks
  | succ steps =>
    have hpos := rule.stride_count_pos
    rw [Nat.succ_mul] at hindex
    have hlater : start.civil.ticks < place.civil.ticks :=
      Civil.lt_of_dayNumber_lt (Stride.dayNumber_lt_of_index_lt (by rw [hindex]; omega))
    omega

end Rule

namespace Plan

section

variable {plan : Plan} {bound : Moment} (hstart : plan.start.frame = .utc)
  (hbound : plan.bound = some bound)
include hstart hbound

/-- From a start of universal time a bound divides the course: the places that it admits are the ones that
    are not after it. -/
theorem visits_eq_filter :
    plan.visits =
      (plan.rule.course plan.start).filter fun place => place.isAfter? bound == some false := by
  have hsteady : plan.start.frame.IsSteady := by
    rw [hstart]
    trivial
  have hadmits : plan.admits = fun place => place.isAfter? bound == some false := by
    funext place
    rw [admits, hbound]
  rw [visits, visitsFrom, takeWhile_eq_filter_of_pairwise (course_pairwise_admits hsteady), hadmits]

/-- Where occurrences are places, those of the admitted places are those within the window. -/
theorem visits_filterMap_of_not_usesNthWeekday (hnth : plan.rule.usesNthWeekday = false) :
    plan.visits.filterMap plan.rule.occurrenceAt? =
      ((plan.rule.course plan.start).filterMap plan.rule.occurrenceAt?).filter
        fun occurrence => occurrence.isWithin plan.start bound := by
  have hsteady : plan.start.frame.IsSteady := by
    rw [hstart]
    trivial
  rw [visits_eq_filter hstart hbound, List.filterMap_filter, List.filter_filterMap]
  refine List.filterMap_congr fun place hplace => ?_
  have hafter := Rule.not_isAfter?_of_mem_course hsteady hplace
  cases hfound : plan.rule.occurrenceAt? place with
  | none => simp
  | some occurrence =>
    rw [Rule.occurrenceAt?_eq_self hnth hfound, Option.filter_some, Moment.isWithin, hafter]
    rfl

variable (haware : bound.frame ≠ .floating)
include haware

/-- A run from universal time whose limit and cap do not bind finds what the admitted places have, and it
    does not fail where the rule stays in the calendar at each of them. -/
theorem run_of_loose {limit cap : Int} (hlimit : plan.limit = .number limit)
    (hcap : plan.cap = .number cap)
    (hwanted : (plan.visits.filterMap plan.rule.occurrenceAt?).length ≤ limit)
    (hmoves : plan.visits.length ≤ cap) :
    plan.run.occurrences = plan.visits.filterMap plan.rule.occurrenceAt? ∧
      ((∀ place ∈ plan.visits, plan.rule.StaysInside place) →
        plan.run.all = .ok plan.run.occurrences) := by
  have hcapped := le_movesWithin cap
  have hreach : plan.visits.length ≤ movesWithin cap := by omega
  constructor
  · rw [occurrences_eq hlimit hcap, List.take_of_length_le hreach,
      List.take_of_length_le (by omega)]
  · intro hinside
    have hcomparable : plan.IsComparable plan.start := by
      intro other hother
      rw [hbound, Option.some.injEq] at hother
      rw [hstart, ← hother]
      simp [Frame.utc, haware]
    rw [Run.all_eq_ok_iff, run_isFailure_iff hlimit hcap hcomparable]
    refine ⟨?_, rfl⟩
    rintro ⟨steps, place, hplace, -, -, houtside⟩
    exact houtside (hinside place (List.mem_of_getElem? hplace))

end

/-- From a start of universal time to a bound that is not floating, with a limit and a cap that do not bind,
    a run finds exactly the occurrences of the places that are not after the bound. Unless the rule picks
    weekdays of months, these are exactly the occurrences from the start up to the bound; if it does, each
    of them lies at midnight in the month of such a place. The run does not fail where the rule stays in
    the calendar at every such place. -/
theorem occurrences_eq_window {rule : Rule} {limit : Option Threshold} {asked : Option Moment}
    {limits : Limits} {plan : Plan} (hmake : make rule limit asked limits = .ok plan)
    {start bound : Moment} (hstart : rule.start = some start) (hframe : start.frame = .utc)
    (hbound : asked.or rule.bound = some bound) (haware : bound.frame ≠ .floating)
    {wanted moves : Int} (hlimit : plan.limit = .number wanted) (hcap : limits.steps = .number moves)
    (hwanted : (plan.visits.filterMap rule.occurrenceAt?).length ≤ wanted)
    (hmoves : plan.visits.length ≤ moves) :
    plan.run.occurrences =
        ((rule.course start).filter fun place => place.isAfter? bound == some false).filterMap
          rule.occurrenceAt? ∧
      (rule.usesNthWeekday = false →
        plan.run.occurrences =
          ((rule.course start).filterMap rule.occurrenceAt?).filter
            fun occurrence => occurrence.isWithin start bound) ∧
      (rule.usesNthWeekday = true → ∀ occurrence ∈ plan.run.occurrences,
        ∃ place ∈ rule.course start, place.isAfter? bound = some false ∧
          ∃ date, occurrence = place.atMidnightOf date ∧
            date.monthIndex = place.civil.date.monthIndex) ∧
      ((∀ place ∈ plan.visits, rule.StaysInside place) →
        plan.run.all = .ok plan.run.occurrences) := by
  obtain ⟨hrule, hfirst, hlast, hsteps⟩ := of_make hmake
  obtain rfl : plan.start = start := Option.some.inj (hfirst.symm.trans hstart)
  subst hrule
  rw [hbound] at hlast
  rw [hcap] at hsteps
  obtain ⟨hfound, hall⟩ :=
    run_of_loose hframe hlast haware hlimit hsteps hwanted hmoves
  have hvisits := visits_eq_filter hframe hlast
  refine ⟨by rw [hfound, hvisits], fun hnth => ?_, fun hnth occurrence hmem => ?_, hall⟩
  · rw [hfound, visits_filterMap_of_not_usesNthWeekday hframe hlast hnth]
  · rw [hfound, hvisits] at hmem
    obtain ⟨place, hplace, hoccurrence⟩ := List.mem_filterMap.1 hmem
    obtain ⟨hcourse, hadmitted⟩ := List.mem_filter.1 hplace
    obtain ⟨date, hmidnight, hmonth⟩ := Rule.occurrenceAt?_of_usesNthWeekday hnth hoccurrence
    exact ⟨place, hcourse, beq_iff_eq.1 hadmitted, date, hmidnight, hmonth⟩

/-- The second Tuesday of each month. -/
def secondTuesdays (start bound : Moment) : Rule where
  frequency := .monthly
  byWeekday := some [.tuesday]
  bySetPosition := some [2]
  start := some start
  bound := some bound

/-- The second Tuesday of September comes before the start and is found, the one of October comes before
    the bound and is not: the cursor stands on the 29th of the month. -/
theorem secondTuesdays_outside_window :
    ∃ start bound early late plan,
      Civil.ofFields 2024 9 29 4 45 0 0 = .ok start ∧
      Civil.ofFields 2024 10 20 0 0 0 0 = .ok bound ∧
      Civil.ofFields 2024 9 10 0 0 0 0 = .ok early ∧
      Civil.ofFields 2024 10 8 0 0 0 0 = .ok late ∧
      make (secondTuesdays (.utc start) (.utc bound)) none none {} = .ok plan ∧
      plan.run.occurrences = [.utc early] ∧
      (Moment.utc start).isAfter? (.utc early) = some true ∧
      .utc late ∈ (plan.rule.course (.utc start)).filterMap plan.rule.occurrenceAt? ∧
      (Moment.utc late).isWithin (.utc start) (.utc bound) = true ∧
      .utc late ∉ plan.run.occurrences := by
  let dawn : TimeOfDay := ⟨4, 45, 0, 0, by decide, by decide, by decide, by decide⟩
  let start : Civil :=
    ⟨⟨2024, 9, 29, by decide, by decide, by decide, by decide, by decide, by decide⟩, dawn⟩
  let bound : Civil :=
    ⟨⟨2024, 10, 20, by decide, by decide, by decide, by decide, by decide, by decide⟩, .midnight⟩
  let early : Civil :=
    ⟨⟨2024, 9, 10, by decide, by decide, by decide, by decide, by decide, by decide⟩, .midnight⟩
  let late : Civil :=
    ⟨⟨2024, 10, 8, by decide, by decide, by decide, by decide, by decide, by decide⟩, .midnight⟩
  let second : Civil :=
    ⟨⟨2024, 10, 29, by decide, by decide, by decide, by decide, by decide, by decide⟩, dawn⟩
  have hmove : (secondTuesdays (.utc start) (.utc bound)).advance (.utc start) =
      .ok (.utc second) := toOption_eq_some_iff.1 (by decide +kernel)
  refine ⟨start, bound, early, late, _, rfl, rfl, rfl, rfl, rfl, ?_, ?_, ?_, ?_, ?_⟩
  · decide +kernel
  · decide +kernel
  · refine List.mem_filterMap.2 ⟨.utc second, ?_, by decide +kernel⟩
    rw [Rule.course_of_advance_ok hmove, Rule.course]
    exact List.mem_cons_of_mem _ List.mem_cons_self
  · decide +kernel
  · decide +kernel

/-- What is found of these Tuesdays with room for every month of the calendar. -/
theorem secondTuesdays_window :
    ∃ start bound plan,
      Civil.ofFields 2024 9 29 4 45 0 0 = .ok start ∧
      Civil.ofFields 2024 10 20 0 0 0 0 = .ok bound ∧
      make (secondTuesdays (.utc start) (.utc bound)) none none ⟨.number 120000, .number 120000⟩ =
        .ok plan ∧
      (Moment.utc start).frame = .utc ∧ (Moment.utc bound).frame ≠ .floating ∧
      (plan.visits.filterMap plan.rule.occurrenceAt?).length ≤ (120000 : Int) ∧
      plan.visits.length ≤ (120000 : Int) ∧
      plan.run.occurrences =
        ((plan.rule.course (.utc start)).filter fun place =>
          place.isAfter? (.utc bound) == some false).filterMap plan.rule.occurrenceAt? := by
  obtain ⟨start, hstart⟩ : ∃ start, Civil.ofFields 2024 9 29 4 45 0 0 = .ok start := ⟨_, rfl⟩
  obtain ⟨bound, hbound⟩ : ∃ bound, Civil.ofFields 2024 10 20 0 0 0 0 = .ok bound := ⟨_, rfl⟩
  let rule := secondTuesdays (.utc start) (.utc bound)
  let limits : Limits := ⟨.number 120000, .number 120000⟩
  let plan : Plan := ⟨rule, .utc start, limits.occurrences, some (.utc bound), limits.steps⟩
  have hroom : plan.rule.stride.limit = 120000 := rfl
  have hplaces := plan.length_visits_le
  have hfewer := List.length_filterMap_le plan.rule.occurrenceAt? plan.visits
  have hmoves : plan.visits.length ≤ (120000 : Int) := by omega
  have hwanted : (plan.visits.filterMap plan.rule.occurrenceAt?).length ≤ (120000 : Int) := by
    omega
  have hmake : make rule none none limits = .ok plan := rfl
  have haware : (Moment.utc bound).frame ≠ .floating := nofun
  exact ⟨start, bound, plan, hstart, hbound, hmake, rfl, haware, hwanted, hmoves,
    (occurrences_eq_window hmake rfl rfl rfl haware rfl rfl hwanted hmoves).1⟩

end Plan

end Recurrence
