import Recurrence.Proofs.Expansion.Occurrence

namespace Recurrence

/-- The progress with the occurrence of the cursor's place added, if there is one. -/
def Progress.record (progress : Progress) : Option Moment → Progress
  | none => progress
  | some occurrence => { progress with found := progress.found.push occurrence }

@[simp] theorem Progress.record_found (progress : Progress) (found : Option Moment) :
    (progress.record found).found.toList = progress.found.toList ++ found.toList := by
  cases found <;> simp [record]

@[simp] theorem Progress.record_cursor (progress : Progress) (found : Option Moment) :
    (progress.record found).cursor = progress.cursor := by
  cases found <;> rfl

@[simp] theorem Progress.record_steps (progress : Progress) (found : Option Moment) :
    (progress.record found).steps = progress.steps := by
  cases found <;> rfl

theorem Progress.record_size (progress : Progress) (found : Option Moment) :
    (progress.record found).found.size = progress.found.size + found.toList.length := by
  rw [← Array.length_toList, record_found, List.length_append, Array.length_toList]

namespace Plan

/-- A rule with a start has a plan, whatever limit, bound and settings are given. -/
theorem exists_make {rule : Rule} {start : Moment} (hstart : rule.start = some start)
    (limit : Option Threshold) (bound : Option Moment) (limits : Limits) :
    ∃ plan, make rule limit bound limits = .ok plan := by
  unfold make
  rw [hstart]
  exact ⟨_, rfl⟩

/-- A plan has its rule, the rule's start, the bound of the request before the rule's own, and the cap of the
    settings. -/
theorem of_make {rule : Rule} {limit : Option Threshold} {bound : Option Moment} {limits : Limits}
    {plan : Plan} (hmake : make rule limit bound limits = .ok plan) :
    plan.rule = rule ∧ rule.start = some plan.start ∧ plan.bound = bound.or rule.bound ∧
      plan.cap = limits.steps := by
  unfold make at hmake
  cases hstart : rule.start with
  | none =>
    rw [hstart] at hmake
    cases hmake
  | some start =>
    rw [hstart] at hmake
    cases hmake
    exact ⟨rfl, rfl, rfl, rfl⟩

/-- The limit is tested first, then the bound, and then the place is looked at. -/
theorem examine_eq (plan : Plan) (progress : Progress) :
    plan.examine progress =
      match plan.limit.isAhead progress.found.size with
      | .error fault => .error (.failed fault)
      | .ok false => .error .limitMet
      | .ok true =>
        match plan.isPastBound progress.cursor with
        | .error fault => .error (.failed fault)
        | .ok true => .error .pastBound
        | .ok false =>
          match plan.rule.candidate progress.cursor with
          | .error cause => .error (.failed (.calendar cause))
          | .ok found => .ok found := by
  unfold examine
  cases plan.limit.isAhead progress.found.size with
  | error fault => rfl
  | ok ahead =>
    cases ahead with
    | false => rfl
    | true =>
      cases plan.isPastBound progress.cursor with
      | error fault => rfl
      | ok past =>
        cases past with
        | true => rfl
        | false => cases plan.rule.candidate progress.cursor <;> rfl

/-- A step that goes on has recorded the place's occurrence, moved the cursor and stayed below the
    cap. -/
structure GoesOn (plan : Plan) (progress : Progress) (found : Option Moment) (later : Progress) :
    Prop where
  examined : plan.examine progress = .ok found
  moved : plan.rule.advance progress.cursor = .ok later.cursor
  recorded : later.found = (progress.record found).found
  counted : later.steps = progress.steps + 1
  uncapped : plan.isCapped later.found.size later.steps = .ok false

/-- A step ends the run before it examines the place's occurrence, at a move that leaves the calendar, or
    at the cap. -/
inductive EndsWith (plan : Plan) (progress : Progress) : Progress → Ending → Prop where
  | refused {ending : Ending} (hexamine : plan.examine progress = .error ending) :
      EndsWith plan progress progress ending
  | stuck {found : Option Moment} {cause : CalendarError}
      (hexamine : plan.examine progress = .ok found)
      (hmove : plan.rule.advance progress.cursor = .error cause) :
      EndsWith plan progress (progress.record found) (.failed (.calendar cause))
  | capped {found : Option Moment} {later : Progress}
      (hexamine : plan.examine progress = .ok found)
      (hmove : plan.rule.advance progress.cursor = .ok later.cursor)
      (hfound : later.found = (progress.record found).found)
      (hsteps : later.steps = progress.steps + 1)
      (hcap : plan.isCapped later.found.size later.steps = .ok true) :
      EndsWith plan progress later .capped
  | unusable {found : Option Moment} {later : Progress} {fault : Fault}
      (hexamine : plan.examine progress = .ok found)
      (hmove : plan.rule.advance progress.cursor = .ok later.cursor)
      (hfound : later.found = (progress.record found).found)
      (hsteps : later.steps = progress.steps + 1)
      (hcap : plan.isCapped later.found.size later.steps = .error fault) :
      EndsWith plan progress later (.failed fault)

theorem step_of_examine_error {plan : Plan} {progress : Progress} {ending : Ending}
    (hexamine : plan.examine progress = .error ending) :
    plan.step progress = .ended progress ending := by
  rw [step, hexamine]

theorem step_of_examine {plan : Plan} {progress : Progress} {found : Option Moment}
    (hexamine : plan.examine progress = .ok found) :
    plan.step progress = plan.move (progress.record found) := by
  unfold step
  rw [hexamine]
  cases found <;> rfl

theorem step_further {plan : Plan} {progress later : Progress}
    (hstep : plan.step progress = .further later) : ∃ found, plan.GoesOn progress found later := by
  cases hexamine : plan.examine progress with
  | error ending =>
    rw [step_of_examine_error hexamine] at hstep
    cases hstep
  | ok found =>
    rw [step_of_examine hexamine] at hstep
    unfold move at hstep
    rw [Progress.record_cursor, Progress.record_steps] at hstep
    split at hstep
    · cases hstep
    · next cursor hmove =>
      dsimp only at hstep
      split at hstep
      · cases hstep
      · cases hstep
      · next huncapped =>
        cases hstep
        exact ⟨found, hexamine, hmove, rfl, rfl, huncapped⟩

theorem step_of_goesOn {plan : Plan} {progress later : Progress} {found : Option Moment}
    (hgoes : plan.GoesOn progress found later) : plan.step progress = .further later := by
  obtain ⟨hexamine, hmove, hrecorded, hcounted, huncapped⟩ := hgoes
  obtain ⟨cursor, known, steps⟩ := later
  dsimp only at hmove hrecorded hcounted huncapped
  subst hrecorded hcounted
  rw [step_of_examine hexamine, move, Progress.record_cursor, Progress.record_steps, hmove]
  simp only [huncapped]

theorem step_of_stuck {plan : Plan} {progress : Progress} {found : Option Moment} {cause : CalendarError}
    (hexamine : plan.examine progress = .ok found)
    (hmove : plan.rule.advance progress.cursor = .error cause) :
    plan.step progress = .ended (progress.record found) (.failed (.calendar cause)) := by
  rw [step_of_examine hexamine, move, Progress.record_cursor, hmove]

theorem step_ended {plan : Plan} {progress later : Progress} {ending : Ending}
    (hstep : plan.step progress = .ended later ending) : plan.EndsWith progress later ending := by
  cases hexamine : plan.examine progress with
  | error refusal =>
    rw [step_of_examine_error hexamine] at hstep
    cases hstep
    exact .refused hexamine
  | ok found =>
    rw [step_of_examine hexamine] at hstep
    unfold move at hstep
    rw [Progress.record_cursor, Progress.record_steps] at hstep
    split at hstep
    · next cause hmove =>
      cases hstep
      exact .stuck hexamine hmove
    · next cursor hmove =>
      dsimp only at hstep
      split at hstep
      · next fault hcap =>
        cases hstep
        exact .unusable hexamine hmove rfl rfl hcap
      · next hcap =>
        cases hstep
        exact .capped hexamine hmove rfl rfl hcap
      · cases hstep

theorem room_pos (cursor : Moment) : 0 < room cursor := by
  have hlast := cursor.civil.date.dayNumber_le_last
  unfold room
  omega

/-- Fuel beyond the cursor's room in the calendar changes nothing. -/
theorem runFrom_of_room_le (plan : Plan) {fuel : Nat} {progress : Progress}
    (hfuel : room progress.cursor ≤ fuel) :
    plan.runFrom fuel progress = plan.runFrom (room progress.cursor) progress := by
  induction fuel using Nat.strongRecOn generalizing progress with
  | ind fuel ih =>
    have hpos := room_pos progress.cursor
    obtain ⟨more, rfl⟩ : ∃ more, fuel = more + 1 := ⟨fuel - 1, by omega⟩
    obtain ⟨rest, hrest⟩ : ∃ rest, room progress.cursor = rest + 1 :=
      ⟨room progress.cursor - 1, by omega⟩
    rw [hrest, runFrom, runFrom]
    cases hstep : plan.step progress with
    | ended later ending => rfl
    | further later =>
      obtain ⟨found, hgoes⟩ := step_further hstep
      have hless := Rule.room_lt_of_advance hgoes.moved
      simp only
      rw [ih more (by omega) (by omega), ih rest (by omega) (by omega)]

/-- The run from a progress to its end. -/
def finish (plan : Plan) (progress : Progress) : Run :=
  plan.runFrom (room progress.cursor) progress

theorem run_eq_finish (plan : Plan) : plan.run = plan.finish plan.begin := rfl

theorem finish_of_ended {plan : Plan} {progress later : Progress} {ending : Ending}
    (hstep : plan.step progress = .ended later ending) :
    plan.finish progress = ⟨later, ending⟩ := by
  have hpos := room_pos progress.cursor
  obtain ⟨rest, hrest⟩ : ∃ rest, room progress.cursor = rest + 1 :=
    ⟨room progress.cursor - 1, by omega⟩
  rw [finish, hrest, runFrom, hstep]

theorem finish_of_further {plan : Plan} {progress later : Progress}
    (hstep : plan.step progress = .further later) : plan.finish progress = plan.finish later := by
  obtain ⟨found, hgoes⟩ := step_further hstep
  have hless := Rule.room_lt_of_advance hgoes.moved
  obtain ⟨rest, hrest⟩ : ∃ rest, room progress.cursor = rest + 1 :=
    ⟨room progress.cursor - 1, by omega⟩
  rw [finish, hrest, runFrom, hstep]
  exact plan.runFrom_of_room_le (by omega)

/-- What ends of runs have, and each step that goes on passes back, every run has. -/
theorem finish_induction {plan : Plan} {P : Progress → Run → Prop}
    (hended : ∀ progress later ending, plan.EndsWith progress later ending →
      P progress ⟨later, ending⟩)
    (hfurther : ∀ progress found later, plan.GoesOn progress found later →
      P later (plan.finish later) → P progress (plan.finish later))
    (progress : Progress) : P progress (plan.finish progress) := by
  generalize hroom : room progress.cursor = remaining
  induction remaining using Nat.strongRecOn generalizing progress with
  | ind remaining ih =>
    cases hstep : plan.step progress with
    | ended later ending =>
      rw [finish_of_ended hstep]
      exact hended progress later ending (step_ended hstep)
    | further later =>
      obtain ⟨found, hgoes⟩ := step_further hstep
      have hless : room later.cursor < remaining := by
        rw [← hroom]
        exact Rule.room_lt_of_advance hgoes.moved
      rw [finish_of_further hstep]
      exact hfurther progress found later hgoes (ih _ hless later rfl)

theorem examine_eq_ok_iff {plan : Plan} {progress : Progress} {found : Option Moment} :
    plan.examine progress = .ok found ↔
      plan.limit.isAhead progress.found.size = .ok true ∧
        plan.isPastBound progress.cursor = .ok false ∧
        plan.rule.candidate progress.cursor = .ok found := by
  rw [examine_eq]
  cases plan.limit.isAhead progress.found.size with
  | error fault => simp
  | ok ahead =>
    cases ahead with
    | false => simp
    | true =>
      cases plan.isPastBound progress.cursor with
      | error fault => simp
      | ok past =>
        cases past with
        | true => simp
        | false => cases plan.rule.candidate progress.cursor <;> simp

/-- Whatever ends a run, it has found the first occurrences of the course from its cursor on. -/
theorem finish_found_prefix (plan : Plan) (progress : Progress) :
    ∃ more, (plan.finish progress).last.found.toList = progress.found.toList ++ more ∧
      more <+: (plan.rule.course progress.cursor).filterMap plan.rule.occurrenceAt? := by
  refine finish_induction (P := fun progress run =>
    ∃ more, run.last.found.toList = progress.found.toList ++ more ∧
      more <+: (plan.rule.course progress.cursor).filterMap plan.rule.occurrenceAt?) ?_ ?_ progress
  · intro progress later ending hends
    -- The run ends at this place: what the place adds comes first in the course.
    cases hends with
    | refused hexamine => exact ⟨[], by simp, List.nil_prefix⟩
    | @stuck found cause hexamine hmove =>
      obtain ⟨-, -, hcandidate⟩ := examine_eq_ok_iff.1 hexamine
      refine ⟨found.toList, progress.record_found found, ?_⟩
      rw [Rule.course_of_advance_error hmove, Rule.filterMap_cons_occurrenceAt? hcandidate]
      exact List.prefix_append _ _
    | @capped found _ hexamine hmove hfound _ hcap =>
      obtain ⟨-, -, hcandidate⟩ := examine_eq_ok_iff.1 hexamine
      refine ⟨found.toList, by rw [hfound, progress.record_found], ?_⟩
      rw [Rule.course_of_advance_ok hmove, Rule.filterMap_cons_occurrenceAt? hcandidate]
      exact List.prefix_append _ _
    | @unusable found _ fault hexamine hmove hfound _ hcap =>
      obtain ⟨-, -, hcandidate⟩ := examine_eq_ok_iff.1 hexamine
      refine ⟨found.toList, by rw [hfound, progress.record_found], ?_⟩
      rw [Rule.course_of_advance_ok hmove, Rule.filterMap_cons_occurrenceAt? hcandidate]
      exact List.prefix_append _ _
  · intro progress found later hgoes hlater
    obtain ⟨more, hmore, hprefix⟩ := hlater
    obtain ⟨-, -, hcandidate⟩ := examine_eq_ok_iff.1 hgoes.examined
    refine ⟨found.toList ++ more, ?_, ?_⟩
    · rw [hmore, hgoes.recorded, progress.record_found, List.append_assoc]
    · rw [Rule.course_of_advance_ok hgoes.moved, Rule.filterMap_cons_occurrenceAt? hcandidate]
      exact (List.prefix_append_right_inj _).2 hprefix

/-- The occurrences of a run are the first ones of its course. -/
theorem occurrences_prefix (plan : Plan) :
    plan.run.occurrences <+: (plan.rule.course plan.start).filterMap plan.rule.occurrenceAt? := by
  obtain ⟨more, hmore, hprefix⟩ := plan.finish_found_prefix plan.begin
  have hfound : plan.run.occurrences = more := hmore
  rw [hfound]
  exact hprefix

end Plan

end Recurrence
