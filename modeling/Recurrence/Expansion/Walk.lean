import Recurrence.Expansion.Run

namespace Recurrence

/-- A run under way, which is asked for one occurrence after the other: its progress, and its ending once a step
    has met it. Nothing is computed before it is asked for. -/
structure Walk where
  plan : Plan
  progress : Progress
  ending : Option Ending := none

namespace Walk

/-- A walk before its first step. -/
def begin (plan : Plan) : Walk := ⟨plan, plan.begin, none⟩

/-- Takes at most `fuel` steps until one finds an occurrence. -/
def nextFrom (plan : Plan) : (fuel : Nat) → Progress → Except Ending Moment × Walk
  | 0, progress =>
    let ending := Ending.failed (.calendar .dateOutOfRange)
    (.error ending, ⟨plan, progress, some ending⟩)
  | fuel + 1, progress =>
    let known := progress.found.size
    match plan.step progress with
    | .further later =>
      match later.found[known]? with
      | some occurrence => (.ok occurrence, ⟨plan, later, none⟩)
      | none => nextFrom plan fuel later
    | .ended later ending =>
      match later.found[known]? with
      | some occurrence => (.ok occurrence, ⟨plan, later, some ending⟩)
      | none => (.error ending, ⟨plan, later, some ending⟩)

/-- The next occurrence, or why there is none. -/
def next (walk : Walk) : Except Ending Moment × Walk :=
  match walk.ending with
  | some ending => (.error ending, walk)
  | none => nextFrom walk.plan (Plan.room walk.progress.cursor) walk.progress

end Walk

end Recurrence
