import Recurrence.Expansion.Candidate
import Recurrence.Moment.Error
import Recurrence.Text.Numeral

namespace Recurrence

/-- Why an expansion fails. -/
inductive Fault where
  | noStart
  /-- The cursor and the bound cannot be compared, because one of them is floating. -/
  | incomparable
  /-- A limit or a cap is no number. -/
  | unusableThreshold
  | calendar (cause : CalendarError)
  | time (cause : TimeError)
  | numeral (cause : Text.NumeralError)

/-- A limit or a cap: a number, or what a configuration put in its place. A truth value counts as 0
    or 1. -/
inductive Threshold where
  | number (value : Int)
  | truth (value : Bool)
  | real (value : Decimal)
  | infinite (negative : Bool)
  /-- No number, with which no count compares. -/
  | undefined
  | unusable (value : Value)

namespace Threshold

/-- The threshold that a configured value is. -/
def ofValue : Value → Threshold
  | .int value => number value
  | .bool value => truth value
  | .real value => real value
  | .foreign (.infinity negative) => infinite negative
  | .foreign .notNumber => undefined
  | value => unusable value

/-- Whether a count has come up to the threshold. -/
def isReached (threshold : Threshold) (count : Nat) : Except Fault Bool :=
  match threshold with
  | number value => .ok (decide (value ≤ count))
  | truth value => .ok (!value || decide (1 ≤ count))
  | real value => .ok (value.isAtMost count)
  | infinite negative => .ok negative
  | undefined => .ok false
  | unusable _ => .error .unusableThreshold

/-- Whether a count is still below the threshold. -/
def isAhead (threshold : Threshold) (count : Nat) : Except Fault Bool :=
  match threshold with
  | undefined => .ok false
  | threshold => (threshold.isReached count).map (!·)

/-- How messages show the threshold. -/
def shown : Threshold → String
  | number value => toString value
  | truth value => (Value.bool value).shown
  | real value => value.shown
  | infinite negative => (Foreign.infinity negative).shown
  | undefined => Foreign.notNumber.shown
  | unusable value => value.plain

/-- How messages that expect a number show the threshold. -/
def numeral : Threshold → String
  | truth value => if value then "1" else "0"
  | real value => toString value.whole
  | threshold => threshold.shown

end Threshold

/-- What an expansion falls back to: the limit for rules without a count, and the cap on steps. -/
structure Limits where
  occurrences : Threshold := .number 1000
  steps : Threshold := .number 100000

/-- Everything that determines a run. -/
structure Plan where
  rule : Rule
  start : Moment
  limit : Threshold
  bound : Option Moment
  cap : Threshold

namespace Plan

/-- The plan for a rule. A limit or a bound of the request comes before the rule's own. -/
def make (rule : Rule) (limit : Option Threshold) (bound : Option Moment) (limits : Limits) :
    Except Fault Plan :=
  match rule.start with
  | none => .error .noStart
  | some start =>
    .ok {
      rule
      start
      limit :=
        match limit, rule.count with
        | some limit, _ => limit
        | none, some count => .number count.val
        | none, none => limits.occurrences
      bound := bound.or rule.bound
      cap := limits.steps }

end Plan

/-- Why a run is over. -/
inductive Ending where
  | limitMet
  | pastBound
  /-- The cap on steps came before the limit. -/
  | capped
  | failed (fault : Fault)

/-- How far a run has come: its cursor, what it has found, oldest first, and the moves it has made. -/
structure Progress where
  cursor : Moment
  found : Array Moment
  steps : Nat

/-- What a step leads to. -/
inductive Turn where
  | further (progress : Progress)
  | ended (progress : Progress) (ending : Ending)

namespace Plan

/-- The progress before the first step. -/
def begin (plan : Plan) : Progress := ⟨plan.start, #[], 0⟩

/-- Whether the cursor has passed the bound. -/
def isPastBound (plan : Plan) (cursor : Moment) : Except Fault Bool :=
  match plan.bound with
  | none => .ok false
  | some bound =>
    match cursor.isAfter? bound with
    | some later => .ok later
    | none => .error .incomparable

/-- Whether the run is over before its next step, and the occurrence of the cursor's place if not. -/
def examine (plan : Plan) (progress : Progress) : Except Ending (Option Moment) := do
  let ahead ← (plan.limit.isAhead progress.found.size).mapError .failed
  if !ahead then .error .limitMet
  else
    let past ← (plan.isPastBound progress.cursor).mapError .failed
    if past then .error .pastBound
    else (plan.rule.candidate progress.cursor).mapError fun cause => .failed (.calendar cause)

/-- Whether the cap ends the run after so many moves. -/
def isCapped (plan : Plan) (found steps : Nat) : Except Fault Bool := do
  let used ← plan.cap.isReached steps
  if used then plan.limit.isAhead found else return false

/-- Moves the cursor on. -/
def move (plan : Plan) (progress : Progress) : Turn :=
  match plan.rule.advance progress.cursor with
  | .error cause => .ended progress (.failed (.calendar cause))
  | .ok cursor =>
    let progress : Progress := ⟨cursor, progress.found, progress.steps + 1⟩
    match plan.isCapped progress.found.size progress.steps with
    | .error fault => .ended progress (.failed fault)
    | .ok true => .ended progress .capped
    | .ok false => .further progress

/-- One step: it tests the limit and the bound, adds the occurrence of the cursor's place if there is one, moves
    the cursor, and tests the cap. -/
def step (plan : Plan) (progress : Progress) : Turn :=
  match plan.examine progress with
  | .error ending => .ended progress ending
  | .ok none => plan.move progress
  | .ok (some occurrence) =>
    plan.move { progress with found := progress.found.push occurrence }

end Plan

/-- A run that is over. It keeps what it has found whatever has ended it. -/
structure Run where
  last : Progress
  ending : Ending

namespace Run

/-- The occurrences, in the order in which they were found. -/
def occurrences (run : Run) : List Moment := run.last.found.toList

end Run

namespace Plan

/-- Takes at most `fuel` steps. -/
def runFrom (plan : Plan) : (fuel : Nat) → Progress → Run
  | 0, progress => ⟨progress, .failed (.calendar .dateOutOfRange)⟩
  | fuel + 1, progress =>
    match plan.step progress with
    | .further progress => plan.runFrom fuel progress
    | .ended progress ending => ⟨progress, ending⟩

/-- Steps that the calendar has room for: each one moves the cursor by a day at least, and one more
    step is stopped at the calendar's end. -/
def room (cursor : Moment) : Nat := Date.lastDayNumber + 1 - cursor.civil.date.dayNumber

/-- The whole run. -/
def run (plan : Plan) : Run := plan.runFrom (room plan.start) plan.begin

end Plan

/-- The occurrences of a rule, or why not all of them can be given. -/
def Run.all (run : Run) : Except Fault (List Moment) :=
  match run.ending with
  | .failed fault => .error fault
  | _ => .ok run.occurrences

end Recurrence
