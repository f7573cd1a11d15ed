import Recurrence.Proofs.Expansion.Steps
import Recurrence.Proofs.Moment.Order

namespace Recurrence

namespace Rule

/-- Occurrences of a course fall on ascending dates, in every frame. -/
theorem occurrences_pairwise_dayNumber (rule : Rule) (cursor : Moment) :
    ((rule.course cursor).filterMap rule.occurrenceAt?).Pairwise fun earlier later =>
      earlier.civil.date.dayNumber < later.civil.date.dayNumber :=
  (rule.occurrences_pairwise_index cursor).imp fun hindex => Stride.dayNumber_lt_of_index_lt hindex

/-- From a start in a steady frame each occurrence of a course is later than every one before it. -/
theorem occurrences_pairwise_isAfter? (rule : Rule) {cursor : Moment}
    (hsteady : cursor.frame.IsSteady) :
    ((rule.course cursor).filterMap rule.occurrenceAt?).Pairwise fun earlier later =>
      later.isAfter? earlier = some true := by
  refine (rule.occurrences_pairwise_dayNumber cursor).imp_of_mem ?_
  intro earlier later hearlier hlater hdates
  have hearlierFrame := frame_of_mem_occurrences hearlier
  have hlaterFrame := frame_of_mem_occurrences hlater
  refine Moment.isAfter?_of_dayNumber_lt (hlaterFrame.trans hearlierFrame.symm) ?_ hdates
  rw [hearlierFrame]
  exact hsteady

end Rule

namespace Plan

/-- From a start in universal time or without an offset, the occurrences of a run ascend strictly in
    every mode, whatever limit, bound and settings are given and whatever ends the run. -/
theorem occurrences_ascend {rule : Rule} {start : Moment} (hstart : rule.start = some start)
    (hframe : start.frame = .utc ∨ start.frame = .floating) (limit : Option Threshold)
    (bound : Option Moment) (limits : Limits) :
    ∃ plan, make rule limit bound limits = .ok plan ∧
      plan.run.occurrences.Pairwise fun earlier later => later.isAfter? earlier = some true := by
  obtain ⟨plan, hmake⟩ := exists_make hstart limit bound limits
  obtain ⟨-, hfirst, -⟩ := of_make hmake
  obtain rfl : plan.start = start := Option.some.inj (hfirst.symm.trans hstart)
  have hsteady : plan.start.frame.IsSteady := by
    rcases hframe with hutc | hfloating
    · rw [hutc]
      trivial
    · rw [hfloating]
      trivial
  exact ⟨plan, hmake,
    (plan.rule.occurrences_pairwise_isAfter? hsteady).sublist plan.occurrences_prefix.sublist⟩

/-- Each year from a leap day on, with the day cut to the end of February. -/
theorem occurrences_ascend_from_leapDay :
    Moment.leapDay.frame = .utc ∧
      ∃ plan, make { frequency := .yearly, start := some .leapDay } none none {} = .ok plan ∧
        plan.run.occurrences.Pairwise fun earlier later => later.isAfter? earlier = some true :=
  ⟨rfl, occurrences_ascend rfl (.inl rfl) none none {}⟩

end Plan

end Recurrence
