import Recurrence.Expansion.Projection
import Recurrence.Proofs.Expansion.Steps
import Recurrence.Proofs.Moment.Order

namespace Recurrence

namespace Rule

/-- Rules in one mode that agree on the fields that count in it. -/
inductive RunsLike (rule other : Rule) : Prop where
  | weekdays (huses : rule.usesWeekdays = true) (hother : other.usesWeekdays = true)
      (hset : ∀ day, day ∈ rule.weekdays ↔ day ∈ other.weekdays)
  | nthWeekday (huses : rule.usesNthWeekday = true) (hother : other.usesNthWeekday = true)
      (hinterval : rule.effectiveInterval = other.effectiveInterval)
      (hday : rule.weekdays.head? = other.weekdays.head?)
      (hposition : rule.positions.head? = other.positions.head?)
  | plain (hdays : rule.usesWeekdays = false) (hotherDays : other.usesWeekdays = false)
      (hnth : rule.usesNthWeekday = false) (hotherNth : other.usesNthWeekday = false)
      (hinterval : rule.effectiveInterval = other.effectiveInterval)

theorem usesWeekdays_of_usesNthWeekday {rule : Rule} (huses : rule.usesNthWeekday = true) :
    rule.usesWeekdays = false := by
  simp only [usesNthWeekday, Bool.and_eq_true, beq_iff_eq] at huses
  unfold usesWeekdays
  rw [huses.1.1]
  rfl

section

variable {rule other : Rule} (halike : rule.RunsLike other)
include halike

/-- Such rules find the same at every place. -/
theorem RunsLike.candidate_eq (place : Moment) : rule.candidate place = other.candidate place := by
  cases halike with
  | weekdays huses hother hset =>
    rw [candidate_of_usesWeekdays huses, candidate_of_usesWeekdays hother]
    simp only [hset]
  | nthWeekday huses hother hinterval hday hposition =>
    obtain ⟨day, position, hfirst, hnumber, hcandidate⟩ := exists_candidate_of_usesNthWeekday huses
    obtain ⟨otherDay, otherPosition, hotherFirst, hotherNumber, hotherCandidate⟩ :=
      exists_candidate_of_usesNthWeekday hother
    obtain rfl : day = otherDay := Option.some.inj (hfirst.symm.trans (hday.trans hotherFirst))
    obtain rfl : position = otherPosition :=
      Option.some.inj (hnumber.symm.trans (hposition.trans hotherNumber))
    rw [hcandidate, hotherCandidate]
  | plain hdays hotherDays hnth hotherNth hinterval =>
    rw [candidate_of_plain hdays hnth, candidate_of_plain hotherDays hotherNth]

/-- At one frequency they move a cursor to the same place. -/
theorem RunsLike.advance_eq (hfrequency : rule.frequency = other.frequency) (cursor : Moment) :
    rule.advance cursor = other.advance cursor := by
  unfold advance
  cases halike with
  | weekdays huses hother hset => rw [if_pos huses, if_pos hother]
  | nthWeekday huses hother hinterval hday hposition =>
    rw [usesWeekdays_of_usesNthWeekday huses, usesWeekdays_of_usesNthWeekday hother, hfrequency,
      hinterval]
  | plain hdays hotherDays hnth hotherNth hinterval => rw [hdays, hotherDays, hfrequency, hinterval]

end

end Rule

namespace Plan

/-- Plans that differ at most in their rules, and these find the same and move alike everywhere. -/
structure SameCourse (plan other : Plan) : Prop where
  start : plan.start = other.start
  limit : plan.limit = other.limit
  bound : plan.bound = other.bound
  cap : plan.cap = other.cap
  candidate : ∀ place, plan.rule.candidate place = other.rule.candidate place
  advance : ∀ cursor, plan.rule.advance cursor = other.rule.advance cursor

section

variable {plan other : Plan} (hsame : plan.SameCourse other)
include hsame

/-- A step reads its plan's rule only through its moves and candidates. -/
theorem SameCourse.step_eq (progress : Progress) : plan.step progress = other.step progress := by
  have hexamine : plan.examine progress = other.examine progress := by
    unfold examine isPastBound
    rw [hsame.limit, hsame.bound, hsame.candidate]
  have hmove : ∀ reached, plan.move reached = other.move reached := by
    intro reached
    unfold move isCapped
    rw [hsame.advance, hsame.cap, hsame.limit]
  unfold step
  simp only [hexamine, hmove]

theorem SameCourse.runFrom_eq (fuel : Nat) (progress : Progress) :
    plan.runFrom fuel progress = other.runFrom fuel progress := by
  induction fuel generalizing progress with
  | zero => rfl
  | succ fuel ih => simp only [runFrom, hsame.step_eq, ih]

theorem SameCourse.run_eq : plan.run = other.run := by
  unfold run begin
  rw [hsame.start, hsame.runFrom_eq]

end

end Plan

/-- What iterating over the occurrences of a rule shows: each of them with its flag for whole days, the
    warnings that are logged, and what ends the iteration, a fault included. -/
structure Iteration where
  occurrences : List (Moment × Bool)
  warnings : List Log.Record
  ending : Ending

/-- What a run shows. -/
def Plan.iteration (plan : Plan) : Iteration where
  occurrences := plan.run.occurrences.map fun occurrence => (occurrence, plan.rule.isAllDay)
  warnings := ((plan.run.remarks plan).map Notice.record).filter (Log.warning ≤ ·.level)
  ending := plan.run.ending

/-- What iterating over the occurrences of a rule shows; it fails if the rule has no start. -/
def Rule.iterate (rule : Rule) (limit : Option Threshold) (bound : Option Moment) (limits : Limits) :
    Except Fault Iteration :=
  (Plan.make rule limit bound limits).map Plan.iteration

/-- Of what a run reports, only the stop at the cap is a warning. -/
theorem Run.warnings_remarks (plan : Plan) (run : Run) :
    ((run.remarks plan).map Notice.record).filter (Log.warning ≤ ·.level) =
      match run.ending with
      | .capped =>
        [(Notice.expansionStopped run.last.found.size run.last.steps plan.limit).record]
      | _ => [] := by
  unfold remarks
  cases run.ending <;> rfl

/-- Plans of the same course show the same, if their rules flag whole days alike. -/
theorem Plan.SameCourse.iteration_eq {plan other : Plan} (hsame : plan.SameCourse other)
    (hflag : plan.rule.isAllDay = other.rule.isAllDay) : plan.iteration = other.iteration := by
  simp only [iteration, Run.warnings_remarks, hsame.run_eq, hsame.limit, hflag]

/-- Rules that agree on start, bound and count have plans that differ in their rules only. -/
theorem Plan.make_of_agreeing {rule other : Rule} (hstart : rule.start = other.start)
    (hbound : rule.bound = other.bound) (hcount : rule.count = other.count) (limit : Option Threshold)
    (bound : Option Moment) (limits : Limits) :
    make other limit bound limits =
      (make rule limit bound limits).map fun plan => { plan with rule := other } := by
  unfold make
  rw [hstart, hbound, hcount]
  cases other.start <;> rfl

namespace Rule

/-- Rules of one frequency, start, bound and count that agree on the fields that count in their mode
    show the same whatever limit, bound and settings are asked for. The declared zone and the first day
    of the week never count. -/
theorem iterate_eq_of_runsLike {rule other : Rule} (hfrequency : rule.frequency = other.frequency)
    (hstart : rule.start = other.start) (hbound : rule.bound = other.bound)
    (hcount : rule.count = other.count) (halike : rule.RunsLike other) (limit : Option Threshold)
    (bound : Option Moment) (limits : Limits) :
    rule.iterate limit bound limits = other.iterate limit bound limits := by
  unfold iterate
  rw [Plan.make_of_agreeing hstart hbound hcount]
  cases hmake : Plan.make rule limit bound limits with
  | error fault => rfl
  | ok plan =>
    obtain ⟨hrule, -, -, -⟩ := Plan.of_make hmake
    have hsame : plan.SameCourse { plan with rule := other } := by
      refine ⟨rfl, rfl, rfl, rfl, fun place => ?_, fun cursor => ?_⟩
      · rw [hrule, halike.candidate_eq]
      · rw [hrule, halike.advance_eq hfrequency]
    have hflag : plan.rule.isAllDay = other.isAllDay := by
      rw [hrule, isAllDay, isAllDay, hfrequency]
    exact congrArg Except.ok (hsame.iteration_eq hflag)

/-- Five of the Mondays and Wednesdays from the leap day on, declared in a zone. -/
def twoWeekdays : Rule where
  frequency := .weekly
  interval := some ⟨5, by decide⟩
  start := some .leapDay
  declaredZone := some "Europe/Paris"
  count := some ⟨5, by decide⟩
  weekStart := some .sunday
  byWeekday := some [.monday, .wednesday]

/-- The same weekdays in another order and with a repetition, another interval, and no declared zone. -/
def twoWeekdaysRepeated : Rule where
  frequency := .weekly
  start := some .leapDay
  count := some ⟨5, by decide⟩
  byWeekday := some [.wednesday, .monday, .wednesday]
  bySetPosition := some [2]

/-- A cap of four steps stops both after one Wednesday, with the same warning. -/
theorem twoWeekdays_iterate :
    twoWeekdays ≠ twoWeekdaysRepeated ∧ twoWeekdays.RunsLike twoWeekdaysRepeated ∧
      twoWeekdays.iterate none none ⟨.number 1000, .number 4⟩ =
        twoWeekdaysRepeated.iterate none none ⟨.number 1000, .number 4⟩ ∧
      ∃ shown, twoWeekdays.iterate none none ⟨.number 1000, .number 4⟩ = .ok shown ∧
        shown.occurrences.length = 1 ∧ shown.warnings.length = 1 := by
  have halike : twoWeekdays.RunsLike twoWeekdaysRepeated :=
    .weekdays rfl rfl (by intro day; cases day <;> decide)
  have hfrequency : twoWeekdays.frequency = twoWeekdaysRepeated.frequency := rfl
  have hsame :=
    iterate_eq_of_runsLike hfrequency rfl rfl rfl halike none none ⟨.number 1000, .number 4⟩
  exact ⟨by decide, halike, hsame, _, rfl, by decide +kernel, by decide +kernel⟩

end Rule

end Recurrence
