import Recurrence.Moment.Text
import Recurrence.Rule.Basic
import Recurrence.Value

namespace Recurrence

/-- A map under names. -/
def Value.ofEntries (entries : List (String × Value)) : Value :=
  .map (entries.map fun entry => (.text entry.1, entry.2))

namespace Rule

/-- A part that may not be set. -/
def part {α : Type} (write : α → Value) (found : Option α) : Value := (found.map write).getD .null

/-- The parts of a rule under their names. -/
def entries (rule : Rule) : List (String × Value) :=
  [("frequency", .text rule.frequency.token),
    ("interval", part (fun number => .int number.val) rule.interval),
    ("start", part (fun moment => .text moment.iso) rule.start),
    ("declared_zone", part .text rule.declaredZone),
    ("until", part (fun moment => .text moment.iso) rule.bound),
    ("count", part (fun number => .int number.val) rule.count),
    ("week_start", part (fun day => .text day.token) rule.weekStart),
    ("by_weekday", part (fun days => .list (days.map (.text ·.token))) rule.byWeekday),
    ("by_set_position", part (fun positions => .list (positions.map .int)) rule.bySetPosition)]

/-- The parts that are set. -/
def setEntries (rule : Rule) : List (String × Value) :=
  rule.entries.filter fun entry =>
    match entry.2 with
    | .null => false
    | _ => true

end Rule

end Recurrence
