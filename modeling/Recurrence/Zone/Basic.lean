import Recurrence.Calendar.Civil

namespace Recurrence

/-- The offset of local time, in seconds east of universal time, and whether it is daylight time. -/
structure Phase where
  offset : Int
  daylight : Bool
deriving DecidableEq, Repr

/-- Standard time at an offset. -/
def Phase.winter (offset : Int) : Phase := ⟨offset, false⟩

/-- Daylight time at an offset. -/
def Phase.summer (offset : Int) : Phase := ⟨offset, true⟩

/-- A change from one phase to another, at an instant given in seconds from the start of 1970. -/
structure Change where
  instant : Int
  before : Phase
  after : Phase
deriving DecidableEq, Repr

/-- The civil second from which on a wall clock means the later phase: with fold 0 the end of the
    skipped or repeated interval, with fold 1 its start. -/
def Change.civilSecond (change : Change) (fold : Bool) : Int :=
  change.instant +
    if fold then min change.before.offset change.after.offset
    else max change.before.offset change.after.offset

/-- A day of the year given by its place in a month: the `week`-th such weekday, where 5 stands for
    the last one, and a time in seconds from that day's midnight, which may lie outside the day. -/
structure RuleDay where
  month : Nat
  week : Nat
  weekday : Nat
  time : Int
deriving DecidableEq, Repr

/-- The rule's civil second in a year, counted from the start of 1970. -/
def RuleDay.civilSecond (rule : RuleDay) (year : Nat) : Int :=
  let first := daysBeforeYear year + daysBeforeMonth year rule.month + 1
  let day := first + (rule.weekday + 7 - first % 7) % 7 + 7 * (rule.week - 1)
  let end_ := first + daysInMonth year rule.month
  let day := if day < end_ then day else day - 7
  ((day : Int) - Civil.epochDay) * 86400 + rule.time

/-- The two changes that every year brings: daylight time starts on one day, read on the standard
    clock, and ends on another, read on the daylight clock. -/
structure AnnualRule where
  standard : Phase
  daylight : Phase
  starts : RuleDay
  ends : RuleDay
deriving DecidableEq, Repr

/-- The changes of a year, newest first. -/
def AnnualRule.changesIn (rule : AnnualRule) (year : Nat) : List Change :=
  let start : Change :=
    ⟨rule.starts.civilSecond year - rule.standard.offset, rule.standard, rule.daylight⟩
  let stop : Change :=
    ⟨rule.ends.civilSecond year - rule.daylight.offset, rule.daylight, rule.standard⟩
  if start.instant ≤ stop.instant then [stop, start] else [start, stop]

/-- The changes of `count` years from `first` on, newest first. -/
def AnnualRule.changesFrom (rule : AnnualRule) (first : Nat) : (count : Nat) → List Change
  | 0 => []
  | count + 1 => rule.changesIn (first + count) ++ rule.changesFrom first count

/-- The newest of those changes that has a property. It looks at no year before the one that holds
    it. -/
def AnnualRule.newest? (rule : AnnualRule) (p : Change → Bool) (first : Nat) :
    (count : Nat) → Option Change
  | 0 => none
  | count + 1 =>
    match (rule.changesIn (first + count)).find? p with
    | some change => some change
    | none => rule.newest? p first count

theorem AnnualRule.newest?_eq_find? (rule : AnnualRule) (p : Change → Bool) (first count : Nat) :
    rule.newest? p first count = (rule.changesFrom first count).find? p := by
  induction count with
  | zero => rfl
  | succ count ih =>
    rw [newest?, changesFrom, List.find?_append, ih]
    cases (rule.changesIn (first + count)).find? p <;> rfl

/-- What the clocks of a zone kept before its first change: an abbreviation and an offset. -/
structure Origin where
  abbreviation : String
  offset : Int
deriving DecidableEq, Repr

/-- A time zone: a history of changes of the offset, newest first, and an annual rule, which applies from the year
    `ruleYear` on. A zone whose clocks have never changed has no origin. -/
structure Zone where
  name : String
  origin : Option Origin
  initial : Phase
  history : List Change
  rule : Option AnnualRule
  ruleYear : Nat
deriving DecidableEq, Repr

namespace Zone

/-- Links a list of instants and phases, newest first, to changes. -/
def link (initial : Phase) : List (Int × Phase) → List Change
  | [] => []
  | (instant, phase) :: older =>
    ⟨instant, ((older.head?.map (·.2)).getD initial), phase⟩ :: link initial older

/-- The zone of a table, whose instants and phases come oldest first. -/
def ofTable (name : String) (origin : Option Origin) (initial : Phase) (table : List (Int × Phase))
    (rule : Option AnnualRule) (ruleYear : Nat) : Zone :=
  ⟨name, origin, initial, link initial table.reverse, rule, ruleYear⟩

/-- A zone whose clocks have never changed. -/
def unchanging (name : String) (offset : Int) : Zone := ofTable name none (.winter offset) [] none 1

/-- All changes up to the end of a year, newest first. -/
def changesThrough (zone : Zone) (year : Nat) : List Change :=
  match zone.rule with
  | some rule => rule.changesFrom zone.ruleYear (year + 1 - zone.ruleYear) ++ zone.history
  | none => zone.history

/-- The newest change up to the end of a year that has a property. -/
def newest? (zone : Zone) (year : Nat) (p : Change → Bool) : Option Change :=
  match zone.rule with
  | some rule =>
    match rule.newest? p zone.ruleYear (year + 1 - zone.ruleYear) with
    | some change => some change
    | none => zone.history.find? p
  | none => zone.history.find? p

theorem newest?_eq_find? (zone : Zone) (year : Nat) (p : Change → Bool) :
    zone.newest? year p = (zone.changesThrough year).find? p := by
  unfold newest? changesThrough
  cases zone.rule with
  | none => rfl
  | some rule =>
    simp only [AnnualRule.newest?_eq_find?, List.find?_append]
    cases (rule.changesFrom zone.ruleYear (year + 1 - zone.ruleYear)).find? p <;> rfl

/-- The change that brought the phase in force at an instant, given as a civil time of universal
    time. No change of a later year than the next can have come before the instant. -/
def lastChange? (zone : Zone) (utc : Civil) : Option Change :=
  let second := utc.epochSecond
  zone.newest? (utc.date.year + 1) (fun change => change.instant ≤ second)

/-- The phase in force at an instant. -/
def phaseAt (zone : Zone) (utc : Civil) : Phase :=
  match zone.lastChange? utc with
  | some change => change.after
  | none => zone.initial

/-- Whether the wall clock shows the civil time of an instant for the second time. -/
def foldAt (zone : Zone) (utc : Civil) : Bool :=
  match zone.lastChange? utc with
  | some change => utc.epochSecond - change.instant < change.before.offset - change.after.offset
  | none => false

/-- The phase that a wall clock means. Where a change skips or repeats a civil time, fold 0 stands for the earlier
    of the two phases around it and fold 1 for the later one. -/
def phaseOf (zone : Zone) (civil : Civil) (fold : Bool) : Phase :=
  let second := civil.epochSecond
  match zone.newest? (civil.date.year + 1) (fun change => change.civilSecond fold ≤ second) with
  | some change => change.after
  | none => zone.initial

end Zone

end Recurrence
