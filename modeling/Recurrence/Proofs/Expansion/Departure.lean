import Recurrence.Proofs.Expansion.Bounded

namespace Recurrence

/-- Whether a run has failed. -/
def Ending.IsFailure : Ending → Prop
  | .limitMet => False
  | .pastBound => False
  | .capped => False
  | .failed _ => True

theorem Run.all_eq_ok_iff {run : Run} {found : List Moment} :
    run.all = .ok found ↔ ¬ run.ending.IsFailure ∧ run.occurrences = found := by
  unfold Run.all
  cases run.ending <;> simp [Ending.IsFailure]

theorem Run.all_eq_error_iff {run : Run} {fault : Fault} :
    run.all = .error fault ↔ run.ending = .failed fault := by
  unfold Run.all
  cases run.ending <;> simp

namespace Plan

/-- Among the first `moves` places that the bound admits there is one, with fewer than `wanted`
    occurrences before it, where the rule leaves the calendar. -/
def DepartsFrom (plan : Plan) (cursor : Moment) (moves wanted : Nat) : Prop :=
  ∃ (steps : Nat) (place : Moment), (plan.visitsFrom cursor)[steps]? = some place ∧ steps < moves ∧
    (((plan.visitsFrom cursor).take steps).filterMap plan.rule.occurrenceAt?).length < wanted ∧
    ¬ plan.rule.StaysInside place

theorem not_departsFrom_of_not_admits {plan : Plan} {cursor : Moment}
    (hadmits : plan.admits cursor = false) (moves wanted : Nat) :
    ¬ plan.DepartsFrom cursor moves wanted := by
  rintro ⟨steps, place, hplace, -⟩
  rw [visitsFrom_of_not_admits hadmits] at hplace
  cases hplace

theorem departsFrom_of_not_staysInside {plan : Plan} {cursor : Moment}
    (hadmits : plan.admits cursor = true) (houtside : ¬ plan.rule.StaysInside cursor)
    {moves wanted : Nat} (hmoves : 1 ≤ moves) (hwanted : 1 ≤ wanted) :
    plan.DepartsFrom cursor moves wanted :=
  ⟨0, cursor, visitsFrom_getElem?_zero hadmits, hmoves, hwanted, houtside⟩

/-- A place that the run gets past counts as one move and as what it has found there. -/
theorem departsFrom_of_advance_ok {plan : Plan} {cursor next : Moment} {found : Option Moment}
    (hadmits : plan.admits cursor = true) (hmove : plan.rule.advance cursor = .ok next)
    (hcandidate : plan.rule.candidate cursor = .ok found) (moves wanted : Nat) :
    plan.DepartsFrom cursor moves wanted ↔
      plan.DepartsFrom next (moves - 1) (wanted - found.toList.length) := by
  have hvisits := visitsFrom_of_advance_ok hadmits hmove
  constructor
  · rintro ⟨steps, place, hplace, hsteps, hfound, houtside⟩
    cases steps with
    | zero =>
      rw [visitsFrom_getElem?_zero hadmits] at hplace
      cases hplace
      exact absurd (Rule.staysInside_iff.2 ⟨⟨next, hmove⟩, found, hcandidate⟩) houtside
    | succ steps =>
      rw [hvisits, List.getElem?_cons_succ] at hplace
      rw [hvisits, List.take_succ_cons, Rule.filterMap_cons_occurrenceAt? hcandidate,
        List.length_append] at hfound
      exact ⟨steps, place, hplace, by omega, by omega, houtside⟩
  · rintro ⟨steps, place, hplace, hsteps, hfound, houtside⟩
    refine ⟨steps + 1, place, ?_, by omega, ?_, houtside⟩
    · rw [hvisits, List.getElem?_cons_succ]
      exact hplace
    · rw [hvisits, List.take_succ_cons, Rule.filterMap_cons_occurrenceAt? hcandidate,
        List.length_append]
      omega

variable {plan : Plan} {limit cap : Int} (hlimit : plan.limit = .number limit)
  (hcap : plan.cap = .number cap)
include hlimit hcap

/-- A run fails exactly if it departs from the calendar. -/
theorem finish_isFailure_iff (progress : Progress) (hcomparable : plan.IsComparable progress.cursor)
    (hroom : progress.steps < movesWithin cap ∨ limit ≤ progress.found.size) :
    (plan.finish progress).ending.IsFailure ↔
      plan.DepartsFrom progress.cursor (movesWithin cap - progress.steps)
        (limit - progress.found.size).toNat := by
  refine finish_induction (P := fun progress run =>
    plan.IsComparable progress.cursor →
      progress.steps < movesWithin cap ∨ limit ≤ progress.found.size →
        (run.ending.IsFailure ↔
          plan.DepartsFrom progress.cursor (movesWithin cap - progress.steps)
            (limit - progress.found.size).toNat)) ?_ ?_ progress hcomparable hroom
  · intro progress later ending hends hcomparable hroom
    cases hends with
    | refused hexamine =>
      cases refuses_of_examine hlimit hexamine with
      | limitMet hmet =>
        simp only [Ending.IsFailure, false_iff]
        rintro ⟨steps, place, -, -, hfound, -⟩
        omega
      | pastBound hadmits =>
        simp only [Ending.IsFailure, false_iff]
        exact not_departsFrom_of_not_admits hadmits _ _
      | incomparable hpast hadmits => exact absurd hpast (isPastBound_ne_error hcomparable _)
      | outside hahead hadmits hcandidate =>
        simp only [Ending.IsFailure, true_iff]
        refine departsFrom_of_not_staysInside hadmits (fun hinside => ?_) (by omega) (by omega)
        obtain ⟨-, found, hfound⟩ := Rule.staysInside_iff.1 hinside
        rw [hcandidate] at hfound
        cases hfound
    | stuck hexamine hmove =>
      obtain ⟨hahead, hadmits, -⟩ := admitted_of_examine hlimit hexamine
      simp only [Ending.IsFailure, true_iff]
      refine departsFrom_of_not_staysInside hadmits (fun hinside => ?_) (by omega) (by omega)
      obtain ⟨⟨next, hnext⟩, -⟩ := Rule.staysInside_iff.1 hinside
      rw [hmove] at hnext
      cases hnext
    | capped hexamine hmove hfound hsteps hcapped =>
      obtain ⟨hahead, hadmits, hcandidate⟩ := admitted_of_examine hlimit hexamine
      rw [hsteps] at hcapped
      have hlast := movesWithin_of_capped hlimit hcap hcapped
      simp only [Ending.IsFailure, false_iff]
      rw [departsFrom_of_advance_ok hadmits hmove hcandidate, hlast]
      rintro ⟨steps, place, -, hless, -⟩
      exact Nat.not_lt_zero steps hless
    | unusable hexamine hmove hfound hsteps hcapped =>
      rw [isCapped_number hlimit hcap] at hcapped
      cases hcapped
  · intro progress found later hgoes hlater hcomparable hroom
    obtain ⟨hahead, hadmits, hcandidate⟩ := admitted_of_examine hlimit hgoes.examined
    obtain ⟨hlaterRoom, hmoves, hwanted⟩ := hgoes.remaining hlimit hcap
    rw [hlater (hcomparable.of_advance hgoes.moved) hlaterRoom,
      departsFrom_of_advance_ok hadmits hgoes.moved hcandidate, hmoves, hwanted]

/-- Nothing but the calendar makes such a run fail. -/
theorem finish_fault (progress : Progress) (hcomparable : plan.IsComparable progress.cursor)
    {fault : Fault} (hending : (plan.finish progress).ending = .failed fault) :
    ∃ cause, fault = .calendar cause := by
  refine finish_induction (P := fun progress run =>
    plan.IsComparable progress.cursor → run.ending = .failed fault →
      ∃ cause, fault = .calendar cause) ?_ ?_ progress hcomparable hending
  · intro progress later ending hends hcomparable hending
    cases hends with
    | refused hexamine =>
      cases refuses_of_examine hlimit hexamine with
      | limitMet hmet => cases hending
      | pastBound hadmits => cases hending
      | incomparable hpast hadmits => exact absurd hpast (isPastBound_ne_error hcomparable _)
      | @outside cause hahead hadmits hcandidate =>
        cases hending
        exact ⟨cause, rfl⟩
    | @stuck found cause hexamine hmove =>
      cases hending
      exact ⟨cause, rfl⟩
    | capped hexamine hmove hfound hsteps hcapped => cases hending
    | unusable hexamine hmove hfound hsteps hcapped =>
      rw [isCapped_number hlimit hcap] at hcapped
      cases hcapped
  · intro progress found later hgoes hlater hcomparable hending
    exact hlater (hcomparable.of_advance hgoes.moved) hending

/-- A whole run whose bound can be compared with its start fails exactly if it departs. -/
theorem run_isFailure_iff (hcomparable : plan.IsComparable plan.start) :
    plan.run.ending.IsFailure ↔ plan.DepartsFrom plan.start (movesWithin cap) limit.toNat := by
  have hfails :=
    finish_isFailure_iff hlimit hcap plan.begin hcomparable (.inl (movesWithin_pos cap))
  rw [run_eq_finish, hfails]
  simp [begin]

end Plan

end Recurrence
