import Recurrence.Proofs.Expansion.Bounded

namespace Recurrence

namespace Date

/-- The day of the month after so many steps of months: the least of the date's own day and the lengths of
    the months that the steps reach. -/
def cutDay (date : Date) (months steps : Nat) : Nat :=
  ((List.range' 1 steps).map fun step => monthLength (date.monthIndex + step * months)).foldl min
    date.day

@[simp] theorem cutDay_zero (date : Date) (months : Nat) : date.cutDay months 0 = date.day := rfl

/-- The steps after the first one find the day cut to the month that the first one reached. -/
theorem cutDay_succ {date next : Date} {months : Nat} (hadd : date.addMonths months = .ok next)
    (steps : Nat) : date.cutDay months (steps + 1) = next.cutDay months steps := by
  obtain ⟨hmonth, hday⟩ := addMonths_eq_ok_iff.1 hadd
  have hindex : next.monthIndex = date.monthIndex + months := by omega
  have hlengths : (List.range' 2 steps).map (fun step => monthLength (date.monthIndex + step * months)) =
      (List.range' 1 steps).map (fun step => monthLength (next.monthIndex + step * months)) := by
    have hshift : List.range' 2 steps = (List.range' 1 steps).map (1 + ·) :=
      (List.map_add_range' 1 steps 1).symm
    rw [hshift, List.map_map]
    apply List.map_congr_left
    intro step _
    simp only [Function.comp_apply, hindex, Nat.add_mul, Nat.one_mul, Nat.add_assoc]
  simp only [cutDay, List.range'_succ, List.map_cons, List.foldl_cons, hlengths, Nat.one_mul]
  rw [hday, hindex]

end Date

namespace Rule

theorem cutDay_of_advance {rule : Rule} {months : Nat} (hstride : rule.stride = .months months)
    {cursor next : Moment} (hmove : rule.advance cursor = .ok next) (steps : Nat) :
    cursor.civil.date.cutDay months (steps + 1) = next.civil.date.cutDay months steps := by
  obtain ⟨date, happly, rfl⟩ := advance_eq_ok_iff.1 hmove
  rw [hstride] at happly
  exact Date.cutDay_succ happly steps

theorem day_of_course_getElem? {rule : Rule} {months : Nat} (hstride : rule.stride = .months months)
    {cursor place : Moment} {steps : Nat} (hplace : (rule.course cursor)[steps]? = some place) :
    place.civil.date.day = cursor.civil.date.cutDay months steps := by
  induction steps generalizing cursor with
  | zero =>
    rw [course, List.getElem?_cons_zero, Option.some.injEq] at hplace
    rw [hplace, Date.cutDay_zero]
  | succ steps ih =>
    cases hmove : rule.advance cursor with
    | error cause =>
      rw [course_of_advance_error hmove] at hplace
      simp at hplace
    | ok next =>
      rw [course_of_advance_ok hmove, List.getElem?_cons_succ] at hplace
      rw [ih hplace, cutDay_of_advance hstride hmove]

/-- Where every place has its occurrence, the occurrences of places are the places. -/
theorem filterMap_occurrenceAt?_of_plain {rule : Rule} (hweekdays : rule.usesWeekdays = false)
    (hnth : rule.usesNthWeekday = false) (places : List Moment) :
    places.filterMap rule.occurrenceAt? = places := by
  have hsome : rule.occurrenceAt? = some := by
    funext place
    exact occurrenceAt?_of_candidate (candidate_of_plain hweekdays hnth place)
  rw [hsome, List.filterMap_some]

/-- The rule moves by so many months and occurs wherever its cursor comes to. -/
structure MovesByMonths (rule : Rule) (months : Nat) : Prop where
  stride : rule.stride = .months months
  weekdays : rule.usesWeekdays = false
  nthWeekday : rule.usesNthWeekday = false

theorem movesByMonths_of_monthly {rule : Rule} (hmonthly : rule.frequency = .monthly)
    (hnth : rule.usesNthWeekday = false) : rule.MovesByMonths rule.effectiveInterval := by
  have hweekdays : rule.usesWeekdays = false := by simp [usesWeekdays, hmonthly]
  exact ⟨by simp [Rule.stride, hweekdays, hmonthly], hweekdays, hnth⟩

theorem movesByMonths_of_yearly {rule : Rule} (hyearly : rule.frequency = .yearly) :
    rule.MovesByMonths (12 * rule.effectiveInterval) := by
  have hweekdays : rule.usesWeekdays = false := by simp [usesWeekdays, hyearly]
  have hnth : rule.usesNthWeekday = false := by simp [usesNthWeekday, hyearly]
  exact ⟨by simp [Rule.stride, hweekdays, hyearly], hweekdays, hnth⟩

end Rule

namespace Plan

section

variable {plan : Plan} {months : Nat} (hmonths : plan.rule.MovesByMonths months)
include hmonths

/-- What a run of such a rule finds after so many moves, whatever limit, bound and settings it has. -/
theorem occurrence_of_movesByMonths {steps : Nat} {occurrence : Moment}
    (hfound : plan.run.occurrences[steps]? = some occurrence) :
    occurrence.civil.date.monthIndex = plan.start.civil.date.monthIndex + steps * months ∧
      occurrence.civil.date.day = plan.start.civil.date.cutDay months steps ∧
      occurrence.civil.time = plan.start.civil.time ∧ occurrence.frame = plan.start.frame := by
  obtain ⟨hstride, hweekdays, hnth⟩ := hmonths
  have hprefix := plan.occurrences_prefix
  rw [Rule.filterMap_occurrenceAt?_of_plain hweekdays hnth] at hprefix
  have hplace : (plan.rule.course plan.start)[steps]? = some occurrence :=
    getElem?_of_isPrefix hprefix hfound
  obtain ⟨hindex, htime, hframe⟩ := Rule.course_getElem? hplace
  rw [hstride] at hindex
  exact ⟨hindex, Rule.day_of_course_getElem? hstride hplace, htime, hframe⟩

/-- A run of such a rule finds an occurrence after so many moves if these stay in the calendar, its limit and its
    cap leave room for them, and no place up to there is after its bound. -/
theorem exists_occurrence_of_movesByMonths {limit cap : Int} (hlimit : plan.limit = .number limit)
    (hcap : plan.cap = .number cap) {steps : Nat}
    (hinside : plan.start.civil.date.monthIndex + steps * months < Date.endMonth)
    (hwanted : steps < limit) (hmoves : steps < cap)
    (hadmits : ∀ place ∈ (plan.rule.course plan.start).take (steps + 1), plan.admits place = true) :
    ∃ occurrence, plan.run.occurrences[steps]? = some occurrence := by
  obtain ⟨hstride, hweekdays, hnth⟩ := hmonths
  have hcourse : steps < (plan.rule.course plan.start).length := by
    rw [Rule.lt_length_course_iff, hstride]
    exact hinside
  have hvisits : (plan.rule.course plan.start).take (steps + 1) <+: plan.visits := by
    obtain ⟨more, hmore⟩ := List.take_prefix (steps + 1) (plan.rule.course plan.start)
    refine ⟨more.takeWhile plan.admits, ?_⟩
    rw [← List.takeWhile_append_of_pos hadmits, hmore]
    rfl
  have hvisited : steps < plan.visits.length := by
    have hlength := hvisits.length_le
    rw [List.length_take] at hlength
    omega
  have hcapped := le_movesWithin cap
  refine ⟨plan.visits[steps], ?_⟩
  rw [occurrences_eq hlimit hcap, Rule.filterMap_occurrenceAt?_of_plain hweekdays hnth, List.take_take,
    List.getElem?_take_of_lt (by omega), List.getElem?_eq_getElem hvisited]

end

/-- The occurrences of a monthly rule that picks no weekdays, and of a yearly rule, lie whole steps of months after
    the start, at its time of day and in its frame, each on the least of the start's day and the
    lengths of the months that its steps reached. The one after so many steps is found if the steps
    stay in the calendar, limit and cap leave room for it, and no place up to it is after the bound. -/
theorem occurrences_by_months {rule : Rule} {given : Option Threshold} {asked : Option Moment}
    {limits : Limits} {plan : Plan} (hmake : make rule given asked limits = .ok plan)
    {start : Moment} (hstart : rule.start = some start) {months : Nat}
    (hmode : (rule.frequency = .monthly ∧ rule.usesNthWeekday = false ∧ months = rule.effectiveInterval) ∨
      (rule.frequency = .yearly ∧ months = 12 * rule.effectiveInterval)) :
    (∀ steps occurrence, plan.run.occurrences[steps]? = some occurrence →
      occurrence.civil.date.monthIndex = start.civil.date.monthIndex + steps * months ∧
        occurrence.civil.date.day = start.civil.date.cutDay months steps ∧
        occurrence.civil.time = start.civil.time ∧ occurrence.frame = start.frame) ∧
      ∀ limit cap : Int, plan.limit = .number limit → limits.steps = .number cap → ∀ steps : Nat,
        start.civil.date.monthIndex + steps * months < Date.endMonth → steps < limit → steps < cap →
          (∀ place ∈ (rule.course start).take (steps + 1), plan.admits place = true) →
            ∃ occurrence, plan.run.occurrences[steps]? = some occurrence := by
  obtain ⟨rfl, hfirst, -, hsteps⟩ := of_make hmake
  obtain rfl : plan.start = start := Option.some.inj (hfirst.symm.trans hstart)
  have hmonths : plan.rule.MovesByMonths months := by
    rcases hmode with ⟨hmonthly, hnth, rfl⟩ | ⟨hyearly, rfl⟩
    · exact Rule.movesByMonths_of_monthly hmonthly hnth
    · exact Rule.movesByMonths_of_yearly hyearly
  refine ⟨fun steps occurrence => occurrence_of_movesByMonths hmonths, ?_⟩
  intro limit cap hlimit hcap steps hinside hwanted hmoves hadmits
  exact exists_occurrence_of_movesByMonths hmonths hlimit (hsteps.trans hcap) hinside hwanted hmoves
    hadmits

/-- The last day of each month. -/
def monthEnds (start : Moment) : Rule where
  frequency := .monthly
  start := some start

/-- From the end of a January on, the second February leaves only 28 days to the March after it. -/
theorem monthEnds_by_months :
    ∃ start plan occurrence,
      Civil.ofFields 2024 1 31 4 45 0 0 = .ok start ∧
      make (monthEnds (.utc start)) none none {} = .ok plan ∧
      (monthEnds (.utc start)).usesNthWeekday = false ∧
      plan.run.occurrences[14]? = some occurrence ∧
      occurrence.civil.date.monthIndex = 12 * 2025 + 2 ∧ occurrence.civil.date.day = 28 ∧
      occurrence.civil.time = start.time ∧ occurrence.frame = .utc := by
  obtain ⟨start, hstart⟩ : ∃ start, Civil.ofFields 2024 1 31 4 45 0 0 = .ok start := ⟨_, rfl⟩
  let plan : Plan := ⟨monthEnds (.utc start), .utc start, .number 1000, none, .number 100000⟩
  have hmake : make (monthEnds (.utc start)) none none {} = .ok plan := rfl
  have hadmits : ∀ place ∈ (plan.rule.course plan.start).take 15, plan.admits place = true :=
    fun _ _ => rfl
  obtain ⟨hclosed, hexists⟩ := occurrences_by_months hmake rfl (.inl ⟨rfl, rfl, rfl⟩)
  cases hstart
  obtain ⟨occurrence, hfound⟩ := hexists 1000 100000 rfl rfl 14 (by decide) (by decide) (by decide)
    hadmits
  obtain ⟨hmonth, hday, htime, hframe⟩ := hclosed 14 occurrence hfound
  refine ⟨_, plan, occurrence, rfl, hmake, rfl, hfound, hmonth, hday, htime, hframe⟩

end Plan

end Recurrence
