import Recurrence.Expansion.Run
import Recurrence.Log.Record
import Recurrence.Moment.Lookup
import Recurrence.Moment.Text
import Recurrence.Rule.Zoned

namespace Recurrence

/-- Something worth reporting: a cause with its data. Level, logger, place and wording follow from the cause. -/
inductive Notice where
  | frequencyIgnored (value : String)
  | intervalIgnored (value : String)
  | countIgnored (value : String)
  | boundIgnored (value : String) (cause : TimeError)
  | startMissing
  | bodyMissing
  | startInvalid (literal : String) (cause : TimeError)
  | plainFailed (text : Value)
  | zoneNotExact (name : String)
  | zoneResolved (name : String) (zone : TargetZone)
  | expansionStarted (plan : Plan)
  | expansionFinished (occurrences steps : Nat)
  | expansionStopped (occurrences steps : Nat) (limit : Threshold)
  | ruleNotExpanded (zone : Value) (cause : String)
  | configMissing (path : String)
  | configUnreadable (path : String)
  | configIgnored (path : String)
  | configLoaded (path : String)
  | logFile (path : String)
  | commandStarted (command : String)
  | expandTextIncomplete
  | parseTextIncomplete
  | formatTextIncomplete
  | expandRefused (cause : String)

/-- How messages show a length of time, as whole days and a clock. -/
def durationText (seconds : Int) : String :=
  let days := seconds / 86400
  let rest := (seconds % 86400).toNat
  let clock := s!"{rest / 3600}:{Text.padded 2 (rest / 60 % 60)}:{Text.padded 2 (rest % 60)}"
  if days = 0 then clock
  else if days.natAbs = 1 then s!"{days} day, {clock}"
  else s!"{days} days, {clock}"

/-- How messages show a zone. -/
def TargetZone.shown : TargetZone → String
  | .exact zone => s!"zoneinfo.ZoneInfo(key={Text.quoted zone.name})"
  | .lenient zone =>
    match zone.origin with
    | some origin =>
      let offset := MinuteZone.wholeMinutes origin.offset
      let sign := if 0 < offset then "+" else ""
      s!"<DstTzInfo {Text.quoted zone.name} {origin.abbreviation}{sign}{durationText offset} STD>"
    | none => if zone.name == "UTC" then "<UTC>" else s!"<StaticTzInfo {Text.quoted zone.name}>"

namespace Notice

/-- The wording of a plan's first notice. -/
def startedMessage (plan : Plan) : String :=
  let bound := (plan.bound.map Moment.iso).getD "<none>"
  s!"Expanding rule: freq={plan.rule.frequency.token} interval={plan.rule.effectiveInterval} " ++
    s!"start={plan.start.iso} until={bound} limit={plan.limit.numeral}"

/-- What is said of rule text that lacks a declaration. -/
def incompleteText : String := "Rule text needs a DTSTART;TZID=... line and an RRULE: line"

/-- A record of the reader of rule text. -/
def ofReader (function : String) (line : Int) (message : String) : Log.Record :=
  ⟨Log.debug, "rrulezone.recurrence.parser", message, function, line⟩

/-- A record of the walk of a rule. -/
def ofWalk (level : Int) (line : Int) (message : String) : Log.Record :=
  ⟨level, "rrulezone.recurrence.generator", message, "iter_occurrences", line⟩

/-- A record of the settings. -/
def ofSettings (level : Int) (function : String) (line : Int) (message : String) : Log.Record :=
  ⟨level, "rrulezone.config.settings", message, function, line⟩

/-- A record of the command line. -/
def ofCommand (level : Int) (function : String) (line : Int) (message : String) : Log.Record :=
  ⟨level, "rrulezone.cli", message, function, line⟩

/-- The record of a notice. -/
def record : Notice → Log.Record
  | frequencyIgnored value =>
    ofReader "_frequency" 71 s!"Ignoring unrecognized FREQ={Text.quoted value}"
  | intervalIgnored value =>
    ofReader "_interval" 55 s!"Ignoring INTERVAL={Text.quoted value}, using 1"
  | countIgnored value => ofReader "_count" 63 s!"Ignoring COUNT={Text.quoted value}"
  | boundIgnored value cause =>
    ofReader "parse" 125 s!"Ignoring UNTIL={Text.quoted value}: {cause.message}"
  | startMissing => ofReader "parse" 94 "Rule text has no DTSTART;TZID declaration"
  | bodyMissing => ofReader "parse" 99 "Rule text has no RRULE declaration"
  | startInvalid literal cause =>
    ofReader "parse" 106 s!"Invalid DTSTART {Text.quoted literal}: {cause.message}"
  | plainFailed text => ofReader "parse_rrule" 188 s!"Unexpected failure parsing {text.shown}"
  | zoneNotExact name =>
    ⟨Log.debug, "rrulezone.timezone.service",
      s!"zoneinfo has no zone {Text.quoted name}, trying pytz", "get_zone", 72⟩
  | zoneResolved name zone =>
    ⟨Log.debug, "rrulezone.timezone.service",
      s!"Resolved time zone {Text.quoted name} -> {zone.shown}", "get_zone", 81⟩
  | expansionStarted plan => ofWalk Log.debug 121 (startedMessage plan)
  | expansionFinished occurrences steps =>
    ofWalk Log.debug 152 s!"Expansion produced {occurrences} occurrences in {steps} steps"
  | expansionStopped occurrences steps limit =>
    ofWalk Log.warning 146 <|
      s!"Stopping expansion after {steps} cursor steps with {occurrences} of " ++
        s!"{limit.shown} occurrences"
  | ruleNotExpanded zone cause =>
    ⟨Log.warning, "rrulezone.recurrence.expander",
      s!"Cannot expand rule into {zone.shown}: {cause}", "generate", 72⟩
  | configMissing path =>
    ofSettings Log.warning "_find_config_file" 122
      s!"RRULEZONE_CONFIG_FILE points to missing file: {path}"
  | configUnreadable path =>
    ofSettings Log.warning "_load_yaml_config" 145 s!"Could not load YAML config from {path}"
  | configIgnored path =>
    ofSettings Log.warning "_load_yaml_config" 149
      s!"Ignoring YAML config {path}: top level must be a mapping"
  | configLoaded path =>
    ofSettings Log.debug "_load_yaml_config" 155 s!"Loaded configuration from {path}"
  | logFile path =>
    ⟨Log.debug, "rrulezone", s!"Logging to file: {path}", "setup_logging", 125⟩
  | commandStarted command =>
    ofCommand Log.debug "main" 97 s!"Running command {Text.quoted command}"
  | expandTextIncomplete => ofCommand Log.error "run_expand" 34 incompleteText
  | parseTextIncomplete => ofCommand Log.error "run_parse" 52 incompleteText
  | formatTextIncomplete => ofCommand Log.error "run_format" 68 incompleteText
  | expandRefused cause => ofCommand Log.error "run_expand" 41 cause

end Notice

/-- A value with what was reported on the way to it, in order. -/
structure Reported (α : Type) where
  value : α
  notices : List Notice := []

end Recurrence
