import Recurrence.Expansion.Walk
import Recurrence.Proofs.Expansion.Steps

namespace Recurrence

theorem Progress.record_getElem? (progress : Progress) (found : Option Moment) :
    (progress.record found).found[progress.found.size]? = found := by
  cases found with
  | none => exact Array.getElem?_eq_none (Nat.le_refl _)
  | some occurrence => exact Array.getElem?_push_size

/-- A step that ends a run keeps what was found before it and adds the place's occurrence at most. -/
theorem Plan.EndsWith.exists_recorded {plan : Plan} {progress later : Progress} {ending : Ending}
    (hends : plan.EndsWith progress later ending) :
    ∃ found, later.found = (progress.record found).found := by
  cases hends with
  | refused hexamine => exact ⟨none, rfl⟩
  | stuck hexamine hmove => exact ⟨_, rfl⟩
  | capped hexamine hmove hfound hsteps hcap => exact ⟨_, hfound⟩
  | unusable hexamine hmove hfound hsteps hcap => exact ⟨_, hfound⟩

namespace Walk

/-- The occurrences that a walk has still to give. -/
def rest (walk : Walk) : List Moment :=
  match walk.ending with
  | some _ => []
  | none => (walk.plan.finish walk.progress).last.found.toList.drop walk.progress.found.size

/-- How a walk will end. -/
def final (walk : Walk) : Ending :=
  match walk.ending with
  | some ending => ending
  | none => (walk.plan.finish walk.progress).ending

/-- What asking a walk for an occurrence gives: the first of its rest, or its ending if nothing is left.
    -/
def Gives (walk : Walk) : Except Ending Moment × Walk → Prop
  | (.ok occurrence, later) => walk.rest = occurrence :: later.rest ∧ walk.final = later.final
  | (.error ending, _) => walk.rest = [] ∧ walk.final = ending

theorem rest_begin (plan : Plan) : (begin plan).rest = plan.run.occurrences := rfl

theorem final_begin (plan : Plan) : (begin plan).final = plan.run.ending := rfl

theorem rest_of_finish {plan : Plan} {progress : Progress} {more : List Moment}
    (hfound : (plan.finish progress).last.found.toList = progress.found.toList ++ more) :
    rest ⟨plan, progress, none⟩ = more := by
  unfold rest
  dsimp only
  rw [hfound, List.drop_left' Array.length_toList]

section

variable {plan : Plan} {progress later : Progress}

/-- A step that goes on gives the place's occurrence, if there is one, and leaves the rest. -/
theorem rest_of_goesOn {found : Option Moment} (hgoes : plan.GoesOn progress found later) :
    rest ⟨plan, progress, none⟩ = found.toList ++ rest ⟨plan, later, none⟩ ∧
      final ⟨plan, progress, none⟩ = final ⟨plan, later, none⟩ := by
  have hsame := Plan.finish_of_further (Plan.step_of_goesOn hgoes)
  obtain ⟨more, hmore, -⟩ := plan.finish_found_prefix later
  have hfound : (plan.finish progress).last.found.toList =
      progress.found.toList ++ (found.toList ++ more) := by
    rw [hsame, hmore, hgoes.recorded, Progress.record_found, List.append_assoc]
  refine ⟨?_, congrArg Run.ending hsame⟩
  rw [rest_of_finish hfound, rest_of_finish hmore]

/-- A step that ends the run gives the place's occurrence, if there is one, and nothing after it. -/
theorem rest_of_ended {ending : Ending} (hstep : plan.step progress = .ended later ending)
    {found : Option Moment} (hfound : later.found = (progress.record found).found) :
    rest ⟨plan, progress, none⟩ = found.toList ∧ final ⟨plan, progress, none⟩ = ending := by
  have hfinish := Plan.finish_of_ended hstep
  have hmore : (plan.finish progress).last.found.toList = progress.found.toList ++ found.toList := by
    rw [hfinish, hfound, Progress.record_found]
  exact ⟨rest_of_finish hmore, congrArg Run.ending hfinish⟩

end

theorem nextFrom_gives (plan : Plan) {fuel : Nat} {progress : Progress}
    (hfuel : Plan.room progress.cursor ≤ fuel) :
    Gives ⟨plan, progress, none⟩ (nextFrom plan fuel progress) := by
  induction fuel generalizing progress with
  | zero =>
    have hpos := Plan.room_pos progress.cursor
    omega
  | succ fuel ih =>
    rw [nextFrom]
    cases hstep : plan.step progress with
    | further later =>
      obtain ⟨found, hgoes⟩ := Plan.step_further hstep
      have hless := Rule.room_lt_of_advance hgoes.moved
      have hlook := progress.record_getElem? found
      rw [← hgoes.recorded] at hlook
      obtain ⟨hrest, hfinal⟩ := rest_of_goesOn hgoes
      dsimp only
      rw [hlook]
      cases found with
      | some occurrence => exact ⟨hrest, hfinal⟩
      | none =>
        have hroom : Plan.room later.cursor ≤ fuel := by omega
        have hlater := ih hroom
        unfold Gives at hlater ⊢
        rw [hrest, hfinal]
        exact hlater
    | ended later ending =>
      obtain ⟨found, hfound⟩ := (Plan.step_ended hstep).exists_recorded
      have hlook := progress.record_getElem? found
      rw [← hfound] at hlook
      obtain ⟨hrest, hfinal⟩ := rest_of_ended hstep hfound
      dsimp only
      rw [hlook]
      cases found with
      | some occurrence => exact ⟨hrest, hfinal⟩
      | none => exact ⟨hrest, hfinal⟩

theorem next_gives (walk : Walk) : walk.Gives walk.next := by
  obtain ⟨plan, progress, ending⟩ := walk
  cases ending with
  | none => exact nextFrom_gives plan (Nat.le_refl _)
  | some ending => exact ⟨rfl, rfl⟩

/-- The first occurrence of the rest comes next. -/
theorem rest_of_next {walk later : Walk} {occurrence : Moment}
    (hnext : walk.next = (.ok occurrence, later)) :
    walk.rest = occurrence :: later.rest ∧ walk.final = later.final := by
  have hgives := walk.next_gives
  rw [hnext] at hgives
  exact hgives

/-- A walk that gives nothing more says how the run ends. -/
theorem rest_of_next_error {walk later : Walk} {ending : Ending}
    (hnext : walk.next = (.error ending, later)) : walk.rest = [] ∧ walk.final = ending := by
  have hgives := walk.next_gives
  rw [hnext] at hgives
  exact hgives

end Walk

end Recurrence
