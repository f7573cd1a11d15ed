import Recurrence.Proofs.Expansion.Departure

namespace Recurrence

namespace Plan

/-- The occurrences that a limit and the bound ask for: the first ones of the places that the bound
    admits. -/
def requested (plan : Plan) (limit : Int) : List Moment :=
  (plan.visits.filterMap plan.rule.occurrenceAt?).take limit.toNat

/-- A place that the bound admits, after so many moves, with fewer occurrences before it than the limit
    asks for. -/
def Needs (plan : Plan) (limit : Int) (steps : Nat) (place : Moment) : Prop :=
  plan.visits[steps]? = some place ∧
    (((plan.visits.take steps).filterMap plan.rule.occurrenceAt?).length : Int) < limit

/-- With a cap that does not bind, a run departs exactly if the rule leaves the calendar at a place that is
    needed. -/
theorem departsFrom_iff {plan : Plan} {limit cap : Int}
    (huncapped : ∀ steps place, plan.Needs limit steps place → steps < cap) :
    plan.DepartsFrom plan.start (movesWithin cap) limit.toNat ↔
      ∃ steps place, plan.Needs limit steps place ∧ ¬ plan.rule.StaysInside place := by
  have hvisits : plan.visitsFrom plan.start = plan.visits := rfl
  simp only [DepartsFrom, hvisits]
  constructor
  · rintro ⟨steps, place, hplace, -, hfound, houtside⟩
    exact ⟨steps, place, ⟨hplace, by omega⟩, houtside⟩
  · rintro ⟨steps, place, hneeds, houtside⟩
    have hsteps := huncapped steps place hneeds
    have hcapped := le_movesWithin cap
    obtain ⟨hplace, hfound⟩ := hneeds
    exact ⟨steps, place, hplace, by omega, by omega, houtside⟩

theorem isPastBound_eq_error_of_not_isComparable {plan : Plan} {place : Moment}
    (hapart : ¬ plan.IsComparable place) : plan.isPastBound place = .error .incomparable := by
  unfold IsComparable at hapart
  unfold isPastBound
  cases hbound : plan.bound with
  | none => simp [hbound] at hapart
  | some bound =>
    have hdiffer : ¬ (place.frame = .floating ↔ bound.frame = .floating) := by
      intro hsame
      refine hapart fun other hother => ?_
      rw [hbound, Option.some.injEq] at hother
      rwa [← hother]
    simp only [Moment.isAfter?_eq_none_iff.2 hdiffer]

section

variable {plan : Plan} {limit : Int} (hlimit : plan.limit = .number limit)
include hlimit

/-- A run whose bound cannot be compared with its start is over at once: its limit is met, or it fails. -/
theorem run_ending_of_not_isComparable (hapart : ¬ plan.IsComparable plan.start) :
    plan.run.ending = if 0 < limit then .failed .incomparable else .limitMet := by
  have hcursor := isPastBound_eq_error_of_not_isComparable hapart
  by_cases hwanted : 0 < limit
  · have hexamine : plan.examine plan.begin = .error (.failed .incomparable) := by
      rw [examine_eq, hlimit, Threshold.isAhead_number]
      simp [begin, hwanted, hcursor]
    rw [run_eq_finish, finish_of_ended (step_of_examine_error hexamine), if_pos hwanted]
  · have hexamine : plan.examine plan.begin = .error .limitMet := by
      rw [examine_eq, hlimit, Threshold.isAhead_number]
      simp [begin, hwanted]
    rw [run_eq_finish, finish_of_ended (step_of_examine_error hexamine), if_neg hwanted]

variable {cap : Int} (hcap : plan.cap = .number cap)
include hcap

/-- A run fails if it has to compare its start with a bound that it cannot be compared with, or if it
    departs from the calendar. -/
theorem isFailure_iff :
    plan.run.ending.IsFailure ↔
      (0 < limit ∧ ¬ plan.IsComparable plan.start) ∨
        plan.DepartsFrom plan.start (movesWithin cap) limit.toNat := by
  by_cases hcomparable : plan.IsComparable plan.start
  · rw [run_isFailure_iff hlimit hcap hcomparable]
    simp [hcomparable]
  · rw [run_ending_of_not_isComparable hlimit hcomparable]
    by_cases hwanted : 0 < limit
    · simp [hwanted, hcomparable, Ending.IsFailure]
    · simp only [hwanted, if_false, false_and, false_or, Ending.IsFailure, false_iff]
      rintro ⟨steps, place, -, -, hfound, -⟩
      omega

/-- What a run has found is given exactly if the bound can be compared with a start that is looked at, and the
    rule stays in the calendar at every place that the cap lets the run come to before its limit is met. -/
theorem all_eq_occurrences_iff :
    plan.run.all = .ok plan.run.occurrences ↔
      (0 < limit → plan.IsComparable plan.start) ∧
        ∀ steps place, (plan.visits.take (movesWithin cap))[steps]? = some place →
          ((((plan.visits.take (movesWithin cap)).take steps).filterMap
            plan.rule.occurrenceAt?).length : Int) < limit → plan.rule.StaysInside place := by
  have hvisits : plan.visitsFrom plan.start = plan.visits := rfl
  have hdeparts : plan.DepartsFrom plan.start (movesWithin cap) limit.toNat ↔
      ∃ steps place, (plan.visits.take (movesWithin cap))[steps]? = some place ∧
        ((((plan.visits.take (movesWithin cap)).take steps).filterMap
          plan.rule.occurrenceAt?).length : Int) < limit ∧ ¬ plan.rule.StaysInside place := by
    simp only [DepartsFrom, hvisits]
    refine exists_congr fun steps => exists_congr fun place => ?_
    by_cases hsteps : steps < movesWithin cap
    · rw [List.getElem?_take_of_lt hsteps, List.take_take, Nat.min_eq_left (Nat.le_of_lt hsteps)]
      simp only [hsteps, true_and, Int.lt_toNat]
    · have hover : (plan.visits.take (movesWithin cap))[steps]? = none :=
        List.getElem?_eq_none (by rw [List.length_take]; omega)
      rw [hover]
      simp [hsteps]
  rw [Run.all_eq_ok_iff, isFailure_iff hlimit hcap, hdeparts]
  simp only [and_true, not_or, not_and, not_exists, Classical.not_not]

variable (huncapped : ∀ steps place, plan.Needs limit steps place → steps < cap)
include huncapped

/-- With a cap that does not bind, a run finds what limit and bound ask for. -/
theorem occurrences_eq_requested : plan.run.occurrences = plan.requested limit := by
  rw [occurrences_eq hlimit hcap]
  by_cases hshort : plan.visits.length ≤ movesWithin cap
  · rw [List.take_of_length_le hshort, requested]
  · -- The places that the cap leaves out are not needed: the limit is met before them.
    have hlong : movesWithin cap < plan.visits.length := by omega
    have hmet : limit.toNat ≤
        ((plan.visits.take (movesWithin cap)).filterMap plan.rule.occurrenceAt?).length := by
      refine Nat.not_lt.1 fun hless => ?_
      have hbinds := huncapped _ _ ⟨List.getElem?_eq_getElem hlong, by omega⟩
      have hcapped := le_movesWithin cap
      omega
    have hprefix :=
      (List.take_prefix (movesWithin cap) plan.visits).filterMap plan.rule.occurrenceAt?
    obtain ⟨more, hmore⟩ := hprefix
    rw [requested, ← hmore, List.take_append_of_le_length hmet]

end

/-- What limit and bound ask for is found, and with a cap that does not bind it is given exactly if the
    bound can be compared with the start and the rule stays in the calendar at every place that is
    needed. Otherwise the run fails on the comparison or on the calendar. -/
theorem all_eq_requested_iff {rule : Rule} {given : Option Threshold} {asked : Option Moment}
    {limits : Limits} {plan : Plan} (hmake : make rule given asked limits = .ok plan)
    {limit cap : Int} (hlimit : plan.limit = .number limit) (hcap : limits.steps = .number cap)
    (huncapped : ∀ steps place, plan.Needs limit steps place → steps < cap) :
    plan.run.occurrences = plan.requested limit ∧
      (plan.run.all = .ok (plan.requested limit) ↔
        (0 < limit → plan.IsComparable plan.start) ∧
          ∀ steps place, plan.Needs limit steps place → rule.StaysInside place) ∧
      ∀ fault, plan.run.all = .error fault →
        fault = .incomparable ∨ ∃ cause, fault = .calendar cause := by
  obtain ⟨rfl, -, -, hsteps⟩ := of_make hmake
  rw [hcap] at hsteps
  have hfound := occurrences_eq_requested hlimit hsteps huncapped
  refine ⟨hfound, ?_, fun fault hfault => ?_⟩
  · rw [Run.all_eq_ok_iff, isFailure_iff hlimit hsteps, departsFrom_iff huncapped]
    simp only [hfound, and_true, not_or, not_and, Classical.not_not, not_exists]
  · rw [Run.all_eq_error_iff] at hfault
    by_cases hcomparable : plan.IsComparable plan.start
    · exact .inr (finish_fault hlimit hsteps plan.begin hcomparable hfault)
    · rw [run_ending_of_not_isComparable hlimit hcomparable] at hfault
      split at hfault
      · cases hfault
        exact .inl rfl
      · cases hfault

/-- One occurrence, with a stride that leaves the calendar behind it. -/
def onceOnly : Rule where
  frequency := .yearly
  interval := some ⟨8000, by decide⟩
  count := some .one
  start := some .leapDay

/-- Its run under the usual settings. -/
def onceOnlyPlan : Plan := ⟨onceOnly, .leapDay, .number 1, none, .number 100000⟩

/-- The one occurrence that is asked for is found and not given. -/
theorem onceOnly_lost :
    make onceOnly none none {} = .ok onceOnlyPlan ∧
      (∀ steps place, onceOnlyPlan.Needs 1 steps place → steps < (100000 : Int)) ∧
      onceOnlyPlan.requested 1 = [Moment.leapDay] ∧
      (onceOnlyPlan.run.all = .ok [Moment.leapDay] ↔
        ∀ steps place, onceOnlyPlan.Needs 1 steps place → onceOnly.StaysInside place) ∧
      onceOnlyPlan.run.all = .error (.calendar (.yearOutOfRange 10000)) := by
  have hmake : make onceOnly none none {} = .ok onceOnlyPlan := rfl
  have huncapped : ∀ steps place, onceOnlyPlan.Needs 1 steps place → steps < (100000 : Int) := by
    rintro steps place ⟨hplace, -⟩
    have hvisits := (List.getElem?_eq_some_iff.1 hplace).1
    have hcourse : onceOnlyPlan.visits.length ≤ (onceOnly.course .leapDay).length :=
      (List.takeWhile_sublist _).length_le
    have hinside := Rule.lt_length_course_iff.1 (Nat.lt_of_lt_of_le hvisits hcourse)
    have hlimit : onceOnly.stride.limit = 120000 := by decide
    have hcount : onceOnly.stride.count = 96000 := by decide
    rw [hlimit, hcount] at hinside
    omega
  have hcomparable : onceOnlyPlan.IsComparable onceOnlyPlan.start := by
    intro bound hbound
    cases hbound
  obtain ⟨hfound, hgiven, -⟩ := all_eq_requested_iff hmake rfl rfl huncapped
  -- The first step finds the occurrence and cannot move on from it.
  have hstep : onceOnlyPlan.step onceOnlyPlan.begin =
      .ended ⟨.leapDay, #[Moment.leapDay], 0⟩ (.failed (.calendar (.yearOutOfRange 10000))) := rfl
  have hrun := (run_eq_finish onceOnlyPlan).trans (finish_of_ended hstep)
  have hrequested : onceOnlyPlan.requested 1 = [Moment.leapDay] := by
    rw [← hfound, hrun]
    rfl
  rw [hrequested] at hgiven
  refine ⟨hmake, huncapped, hrequested, ?_, by rw [hrun]; rfl⟩
  rw [hgiven]
  exact and_iff_right fun _ => hcomparable

end Plan

end Recurrence
