import Recurrence.Proofs.Expansion.DayWalk
import Recurrence.Proofs.Expansion.MonthSteps
import Recurrence.Proofs.Expansion.Narrower
import Recurrence.Proofs.Expansion.NthWeekday

namespace Recurrence

/-- Of successive numbers, one in seven at least has a given remainder by seven. -/
theorem lt_length_filter_mod_seven {rest : Nat} (hrest : rest < 7) (start count : Nat) :
    count < 7 * (((List.range' start count).filter fun number => number % 7 = rest).length + 1) := by
  refine Nat.not_le.1 fun hfew => ?_
  let place := ((List.range' start count).filter fun number => number % 7 = rest).length
  have hnumber := (filter_mod_seven_getElem? hrest start count place
    (start + (rest + 7 - start % 7) % 7 + 7 * place)).2 ⟨rfl, by omega⟩
  have hinside := (List.getElem?_eq_some_iff.1 hnumber).1
  exact Nat.lt_irrefl place hinside

namespace Rule

/-- Among so many successive places of the rule there is an occurrence: one place, unless the rule tests each day
    against weekdays or looks for a weekday at a position that not every month has. -/
inductive OccursWithin (rule : Rule) : Nat → Prop where
  | always (hweekdays : rule.usesWeekdays = false) (hnth : rule.usesNthWeekday = false) :
      OccursWithin rule 1
  | eachMonth {position : Int} (hnth : rule.usesNthWeekday = true)
      (hfirst : rule.positions.head? = some position)
      (hposition : position = -1 ∨ 1 ≤ position ∧ position ≤ 4) : OccursWithin rule 1
  | eachWeek (hweekdays : rule.usesWeekdays = true) : OccursWithin rule 7

theorem map_dayNumber_course_take {rule : Rule} (hstride : rule.stride = .days 1) {start : Moment}
    {steps : Nat} (hsteps : steps ≤ (rule.course start).length) :
    ((rule.course start).take steps).map (·.civil.date.dayNumber) =
      List.range' start.civil.date.dayNumber steps := by
  apply List.ext_getElem
  · simp [hsteps]
  · intro step hplace hnumber
    have hindex := (course_getElem? (List.getElem?_eq_getElem
      (show step < (rule.course start).length by simp at hplace; omega))).1
    simp only [hstride, Stride.index, Stride.count] at hindex
    simp [hindex]

theorem isSome_occurrenceAt?_of_eachMonth {rule : Rule} {position : Int}
    (hnth : rule.usesNthWeekday = true) (hfirst : rule.positions.head? = some position)
    (hposition : position = -1 ∨ 1 ≤ position ∧ position ≤ 4) (place : Moment) :
    (rule.occurrenceAt? place).isSome = true := by
  obtain ⟨day, _, hday, -⟩ := exists_candidate_of_usesNthWeekday hnth
  obtain ⟨found, hfound⟩ := place.civil.date.exists_nthWeekday? day hposition
  rw [occurrenceAt?_eq_nthWeekday? hnth hday hfirst, hfound]
  rfl

/-- At a pace of one place there is an occurrence for each place. -/
theorem OccursWithin.length_filterMap {rule : Rule} (hpace : rule.OccursWithin 1) (places : List Moment) :
    (places.filterMap rule.occurrenceAt?).length = places.length := by
  cases hpace with
  | always hweekdays hnth => rw [filterMap_occurrenceAt?_of_plain hweekdays hnth]
  | eachMonth hnth hfirst hposition =>
    rw [List.length_filterMap_eq_countP, List.countP_eq_length]
    exact fun place _ => isSome_occurrenceAt?_of_eachMonth hnth hfirst hposition place

/-- A run of places without an occurrence is shorter than the rule's pace. -/
theorem OccursWithin.lt_length {rule : Rule} {pace : Nat} (hpace : rule.OccursWithin pace)
    {start : Moment} {steps : Nat} (hsteps : steps ≤ (rule.course start).length) :
    steps < pace * ((((rule.course start).take steps).filterMap rule.occurrenceAt?).length + 1) := by
  have hlength : ((rule.course start).take steps).length = steps := List.length_take_of_le hsteps
  cases hpace with
  | always hweekdays hnth =>
    rw [OccursWithin.length_filterMap (.always hweekdays hnth), hlength]
    omega
  | eachMonth hnth hfirst hposition =>
    rw [OccursWithin.length_filterMap (.eachMonth hnth hfirst hposition), hlength]
    omega
  | eachWeek hweekdays =>
    have hstride : rule.stride = .days 1 := by simp [stride, hweekdays]
    obtain ⟨day, hday⟩ : ∃ day, day ∈ rule.weekdays := by
      simp only [usesWeekdays, Bool.and_eq_true, Bool.not_eq_true', List.isEmpty_eq_false_iff] at hweekdays
      exact List.exists_mem_of_ne_nil _ hweekdays.2
    -- The days on one of the weekdays are already enough.
    have hone : ((rule.course start).take steps).countP
        (fun place => decide (place.civil.date.dayNumber % 7 = day.number)) ≤
        (((rule.course start).take steps).filterMap rule.occurrenceAt?).length := by
      rw [filterMap_occurrenceAt?_of_usesWeekdays hweekdays, ← List.countP_eq_length_filter]
      refine List.countP_mono_left fun place _ hnumber => ?_
      rw [decide_eq_true_eq, ← Date.weekday_eq_iff] at hnumber
      simpa [hnumber] using hday
    have hmany := lt_length_filter_mod_seven day.number_lt start.civil.date.dayNumber steps
    rw [← map_dayNumber_course_take hstride hsteps, ← List.countP_eq_length_filter,
      List.countP_map] at hmany
    have hsame : ((rule.course start).take steps).countP
        ((fun number => decide (number % 7 = day.number)) ∘ (·.civil.date.dayNumber)) =
        ((rule.course start).take steps).countP
          (fun place => decide (place.civil.date.dayNumber % 7 = day.number)) := rfl
    omega

end Rule

namespace Plan

/-- The calendar has room for a run: the rule stays inside of it wherever the run comes to before its limit is
    met, its bound is passed or its cap is reached. -/
def HasRoom (plan : Plan) (limit cap : Int) : Prop :=
  ∀ steps place, plan.Needs limit steps place → steps < cap → plan.rule.StaysInside place

/-- A cap that is reached before the calendar ends leaves room, if the rule counts to no day of the month. -/
theorem hasRoom_of_moves {plan : Plan} {moves : Nat} (hnth : plan.rule.usesNthWeekday = false)
    (hinside : plan.rule.stride.index plan.start.civil.date + moves * plan.rule.stride.count <
      plan.rule.stride.limit) (limit : Int) : plan.HasRoom limit moves := by
  rintro steps place ⟨hplace, -⟩ hsteps
  have hcourse : (plan.rule.course plan.start)[steps]? = some place :=
    getElem?_of_isPrefix plan.visits_beginning hplace
  have hmoves : (steps + 1) * plan.rule.stride.count ≤ moves * plan.rule.stride.count :=
    Nat.mul_le_mul_right _ (by omega)
  rw [Nat.succ_mul] at hmoves
  refine ⟨?_, fun huses => absurd (hnth.symm.trans huses) Bool.false_ne_true⟩
  rw [(Rule.course_getElem? hcourse).1]
  omega

/-- A course that finds too few occurrences lasts for all moves: the rule would leave the calendar from its last
    place, which the run still needs. -/
theorem movesWithin_le_length_course {plan : Plan} {limit cap : Int} (hunbound : plan.bound = none)
    (hroom : plan.HasRoom limit cap)
    (hfew : (((plan.rule.course plan.start).filterMap plan.rule.occurrenceAt?).length : Int) < limit) :
    movesWithin cap ≤ (plan.rule.course plan.start).length := by
  refine Nat.not_lt.1 fun hshort => ?_
  have hpos : 0 < (plan.rule.course plan.start).length :=
    List.length_pos_of_ne_nil (by rw [Rule.course]; exact List.cons_ne_nil _ _)
  obtain ⟨steps, hsteps⟩ : ∃ steps, (plan.rule.course plan.start).length = steps + 1 :=
    ⟨(plan.rule.course plan.start).length - 1, by omega⟩
  have hplace := List.getElem?_eq_getElem (show steps < (plan.rule.course plan.start).length by omega)
  have hbefore :=
    ((List.take_prefix steps (plan.rule.course plan.start)).filterMap plan.rule.occurrenceAt?).length_le
  have hneeds : plan.Needs limit steps (plan.rule.course plan.start)[steps] := by
    rw [Needs, visits_of_unbound hunbound]
    exact ⟨hplace, by omega⟩
  have hmoves : (steps : Int) < cap := by
    unfold movesWithin at hshort
    omega
  obtain ⟨hinside, -⟩ := hroom steps _ hneeds hmoves
  rw [(Rule.course_getElem? hplace).1, Nat.add_assoc, ← Nat.succ_mul] at hinside
  have hover := Rule.lt_length_course_iff.2 hinside
  omega

section

variable {plan : Plan} {limit : Int} (hlimit : plan.limit = .number limit) {cap : Int}
  (hcap : plan.cap = .number cap)
include hlimit hcap

/-- A run that its cap stops has not met its limit. -/
theorem length_lt_of_capped (hcapped : plan.run.ending = .capped) :
    (plan.run.occurrences.length : Int) < limit := by
  refine finish_induction (P := fun _ run =>
    run.ending = .capped → (run.occurrences.length : Int) < limit) ?_ ?_ plan.begin hcapped
  · intro progress later ending hends hending
    cases hends with
    | refused hexamine =>
      subst hending
      cases refuses_of_examine hlimit hexamine
    | stuck hexamine hmove => cases hending
    | capped hexamine hmove hfound hsteps hcapped =>
      rw [isCapped_number hlimit hcap, Except.ok.injEq, Bool.and_eq_true, decide_eq_true_eq,
        decide_eq_true_eq] at hcapped
      exact hcapped.2
    | unusable hexamine hmove hfound hsteps hcapped => cases hending
  · intro progress found later hgoes hlater hending
    exact hlater hending

theorem all_eq_ok_of_hasRoom (hcomparable : plan.IsComparable plan.start) (hmoves : 1 ≤ cap)
    (hroom : plan.HasRoom limit cap) : plan.run.all = .ok plan.run.occurrences := by
  rw [Run.all_eq_ok_iff, run_isFailure_iff hlimit hcap hcomparable]
  refine ⟨?_, rfl⟩
  rintro ⟨steps, place, hplace, hsteps, hfound, houtside⟩
  have hneeds : plan.Needs limit steps place := ⟨hplace, by unfold visits; omega⟩
  unfold movesWithin at hsteps
  exact houtside (hroom steps place hneeds (by omega))

/-- Without a bound, a run whose cap has room for the rule's pace meets its limit. -/
theorem le_length_of_hasRoom {pace : Nat} (hpace : plan.rule.OccursWithin pace)
    (hunbound : plan.bound = none) (henough : pace * limit ≤ cap) (hroom : plan.HasRoom limit cap) :
    limit ≤ plan.run.occurrences.length := by
  refine Int.not_lt.1 fun hfew => ?_
  rw [occurrences_eq hlimit hcap, visits_of_unbound hunbound, List.length_take] at hfew
  -- Fewer than are wanted, so the run makes all its moves and finds what their number promises.
  have hlong : movesWithin cap ≤ (plan.rule.course plan.start).length := by
    refine Nat.le_of_not_lt fun hshort => ?_
    rw [List.take_of_length_le (Nat.le_of_lt hshort)] at hfew
    exact Nat.not_le.2 hshort (movesWithin_le_length_course hunbound hroom (by omega))
  have hpromised := hpace.lt_length hlong
  generalize (((plan.rule.course plan.start).take (movesWithin cap)).filterMap
    plan.rule.occurrenceAt?).length = count at hfew hpromised
  obtain ⟨wanted, hwanted⟩ : ∃ wanted : Nat, limit = wanted := ⟨limit.toNat, by omega⟩
  have hmost := Nat.mul_le_mul_left pace (show count + 1 ≤ wanted by omega)
  have hcapped := le_movesWithin cap
  rw [hwanted, ← Int.natCast_mul] at henough
  omega

end

/-- A run with a positive limit and room in the calendar gives exactly as many occurrences as its limit asks for,
    and is not reported to have been stopped, if it has no bound and its cap allows a place for each of them,
    or a week for each in a rule that tests days against weekdays. With a bound, a rule that occurs at every
    place gives as many as the least of its limit, its cap and the number of its places that are not
    after the bound. -/
theorem length_of_all {rule : Rule} {given : Option Threshold} {asked : Option Moment}
    {limits : Limits} {plan : Plan} (hmake : make rule given asked limits = .ok plan)
    {start : Moment} (hstart : rule.start = some start) {limit cap : Int}
    (hlimit : plan.limit = .number limit) (hcap : limits.steps = .number cap)
    (hwanted : 1 ≤ limit) (hmoves : 1 ≤ cap) (hroom : plan.HasRoom limit cap) :
    (∀ pace : Nat, rule.OccursWithin pace → plan.bound = none → pace * limit ≤ cap →
      ∃ found, plan.run.all = .ok found ∧ (found.length : Int) = limit ∧
        ¬ plan.run.ReportsStop plan) ∧
      (rule.OccursWithin 1 → plan.IsComparable start → plan.BoundPassesOnce →
        ∃ found, plan.run.all = .ok found ∧
          (found.length : Int) = min limit (min cap ((rule.course start).filter plan.admits).length)) := by
  obtain ⟨rfl, hfirst, -, hsteps⟩ := of_make hmake
  obtain rfl : plan.start = start := Option.some.inj (hfirst.symm.trans hstart)
  rw [hcap] at hsteps
  constructor
  · intro pace hpace hunbound henough
    have hcomparable : plan.IsComparable plan.start := by
      intro bound hbound
      rw [hunbound] at hbound
      cases hbound
    have hleast := le_length_of_hasRoom hlimit hsteps hpace hunbound henough hroom
    have hmost : plan.run.occurrences.length ≤ limit.toNat := by
      rw [occurrences_eq hlimit hsteps]
      exact List.length_take_le _ _
    refine ⟨_, all_eq_ok_of_hasRoom hlimit hsteps hcomparable hmoves hroom, by omega, fun hstop => ?_⟩
    have hless := length_lt_of_capped hlimit hsteps (Run.reportsStop_iff.1 hstop)
    omega
  · intro hpace hcomparable honce
    refine ⟨_, all_eq_ok_of_hasRoom hlimit hsteps hcomparable hmoves hroom, ?_⟩
    have hvisits : plan.visits = (plan.rule.course plan.start).filter plan.admits :=
      takeWhile_eq_filter_of_pairwise (course_pairwise_admits_of_once honce)
    rw [occurrences_eq hlimit hsteps, List.length_take, hpace.length_filterMap, hvisits, List.length_take]
    unfold movesWithin
    omega

/-- Two Mondays within fourteen days, and the leap day alone where the bound ends five days. -/
theorem mondays_length :
    ∃ mondays days plan bounded found single,
      mondays = { frequency := .weekly, byWeekday := some [.monday], start := some .leapDay } ∧
      make mondays (some (.number 2)) none ⟨.number 1000, .number 14⟩ = .ok plan ∧
      plan.run.all = .ok found ∧ found.length = (2 : Int) ∧ ¬ plan.run.ReportsStop plan ∧
      days = { start := some .leapDay } ∧
      make days (some (.number 5)) (some .leapDay) ⟨.number 1000, .number 9⟩ = .ok bounded ∧
      bounded.run.all = .ok single ∧
      single.length = min (5 : Int) (min 9 ((days.course .leapDay).filter bounded.admits).length) := by
  let mondays : Rule :=
    { frequency := .weekly, byWeekday := some [.monday], start := some .leapDay }
  let days : Rule := { start := some .leapDay }
  have hmake : make mondays (some (.number 2)) none ⟨.number 1000, .number 14⟩ =
      .ok ⟨mondays, .leapDay, .number 2, none, .number 14⟩ := rfl
  have hbounded : make days (some (.number 5)) (some .leapDay) ⟨.number 1000, .number 9⟩ =
      .ok ⟨days, .leapDay, .number 5, some .leapDay, .number 9⟩ := rfl
  obtain ⟨hcounts, -⟩ := length_of_all hmake rfl rfl rfl (by decide) (by decide)
    (@hasRoom_of_moves _ 14 rfl (by decide) 2)
  obtain ⟨-, hleast⟩ := length_of_all hbounded rfl rfl rfl (by decide) (by decide)
    (@hasRoom_of_moves _ 9 rfl (by decide) 5)
  obtain ⟨found, hfound, hlength, hquiet⟩ := hcounts 7 (.eachWeek rfl) rfl (by decide)
  obtain ⟨single, hsingle, hone⟩ := hleast (.always rfl rfl) (by rintro _ ⟨⟩; exact Iff.rfl)
    (by rintro - _ ⟨⟩)
  exact ⟨mondays, days, _, _, found, single, rfl, hmake, hfound, hlength, hquiet, rfl, hbounded, hsingle,
    hone⟩

end Plan

end Recurrence
