import Recurrence.Rule.Basic
import Recurrence.Value.Check

namespace Recurrence

/-- Fields of a rule before they are checked. -/
structure RuleFields where
  frequency : Value := .text "DAILY"
  interval : Value := .null
  start : Option Moment := none
  declaredZone : Value := .null
  bound : Option Moment := none
  count : Value := .null
  weekStart : Option Weekday := none
  byWeekday : Option (List Weekday) := none
  bySetPosition : Value := .null

namespace RuleFields

/-- The frequency that a token names. -/
def readFrequency : Value → Except Flaw Frequency
  | .text token =>
    match Frequency.ofToken? token with
    | some frequency => .ok frequency
    | none => .error .unknownToken
  | _ => .error .unknownToken

/-- A number of at least one, or nothing. -/
def readPositive (value : Value) : Except Flaw (Option Positive) :=
  (value.optional Value.positive).map fun found => found.bind fun number => Positive.ofInt? number.val

/-- The positions that a list gives, or all complaints about its items. -/
def readPositions : Value → Except (List Complaint) (Option (List Int))
  | .null => .ok none
  | .list items =>
    let found := items.map Value.integer
    let complaints := (found.zipIdx.map fun (item, index) =>
      complaintOf ["by_set_position", toString index] item).flatten
    if complaints.isEmpty then .ok (some (found.filterMap Except.toOption)) else .error complaints
  | _ => .error [⟨["by_set_position"], .notSequence⟩]

/-- The rule, or all complaints about the fields. -/
def check (fields : RuleFields) : Except (List Complaint) Rule :=
  match readFrequency fields.frequency, readPositive fields.interval,
      fields.declaredZone.optional Value.textual, readPositive fields.count,
      readPositions fields.bySetPosition with
  | .ok frequency, .ok interval, .ok declaredZone, .ok count, .ok bySetPosition =>
    .ok {
      frequency
      interval
      start := fields.start
      declaredZone
      bound := fields.bound
      count
      weekStart := fields.weekStart
      byWeekday := fields.byWeekday
      bySetPosition }
  | frequency, interval, declaredZone, count, positions =>
    .error (complaintOf ["frequency"] frequency ++ complaintOf ["interval"] interval ++
      complaintOf ["declared_zone"] declaredZone ++ complaintOf ["count"] count ++
      complaintsOf positions)

end RuleFields

end Recurrence
