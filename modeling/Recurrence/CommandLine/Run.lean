import Recurrence.CommandLine.Invocation
import Recurrence.Document.Json.Printer
import Recurrence.Log.Journal
import Recurrence.Rule.Document
import Recurrence.Rule.Written
import Recurrence.Workspace

namespace Recurrence

open CommandLine

/-- What a run leaves behind: its exit code, unless a failure ended it, what it has written to both of its
    outputs, and all files. -/
structure Outcome where
  exit : Except Failure Nat
  output : String := ""
  errors : String := ""
  files : FileTree

/-- What a command answers: an exit code and what it writes. -/
structure Answer where
  exit : Nat
  output : String := ""

namespace Answer

/-- The code of a run that did what it was asked. -/
def success : Nat := 0

/-- The code for invalid rule text. -/
def invalid : Nat := 1

/-- The code for a zone or a reference time that cannot be made out, and for a command line that is
    refused. -/
def refused : Nat := 2

/-- Lines, each with its end. -/
def lines (texts : List String) : String := String.join (texts.map (· ++ "\n"))

/-- A document on lines of its own. -/
def document (entries : List (String × Value)) : String :=
  lines [Json.written 0 (.ofEntries entries)]

end Answer

namespace Command

/-- Reads zoned text for a command that needs a rule; without a rule it is reported what is missing. -/
def withRule (text : String) (missing : Notice) (answer : Rule → Reported (Except Fault Answer)) :
    Reported (Except Fault Answer) :=
  let remarks := Rule.zonedRemarks text
  match Rule.ofZonedText text with
  | .error cause => ⟨.error (.numeral cause), remarks⟩
  | .ok none => ⟨.ok ⟨Answer.invalid, ""⟩, remarks ++ [missing]⟩
  | .ok (some rule) =>
    let answered := answer rule
    ⟨answered.value, remarks ++ answered.notices⟩

/-- The zone that occurrences are given in: the one that was asked for, or else the one of the settings. -/
def zoneFor (settings : Settings) : (zone : Option String) → Value
  | some zone => if zone.isEmpty then settings.targetZone else .text zone
  | none => settings.targetZone

/-- The occurrences of a rule, a line for each. -/
def expanded (zones : ZoneDatabase) (settings : Settings) (zone : Option String) (time : String)
    (limit : Option Int) (rule : Rule) : Reported (Except Fault Answer) :=
  let result := rule.expand zones (zoneFor settings zone) (.text time) (limit.map .number) none
    settings.limits
  match result.value with
  | .ok dates => ⟨.ok ⟨Answer.success, Answer.lines dates⟩, result.notices⟩
  | .error fault =>
    match fault.message? with
    | some message =>
      ⟨.ok ⟨Answer.refused, ""⟩, result.notices ++ [.expandRefused message]⟩
    | none => ⟨.error fault, result.notices⟩

/-- Whether plain text is a rule, with the rule or with what is wrong. -/
def validated (text : String) : Answer :=
  let reading := PlainReading.ofValue (.text text)
  let rule := reading.rule.map fun rule => ("rule", Value.ofEntries rule.setEntries)
  let error := reading.error.map fun message => ("error", Value.text message)
  ⟨if reading.valid then Answer.success else Answer.invalid,
    Answer.document (("valid", .bool reading.valid) :: (rule.toList ++ error.toList))⟩

/-- What a command answers under settings, with what is reported on the way. -/
def answer (zones : ZoneDatabase) (settings : Settings) : Command → Reported (Except Fault Answer)
  | .expand text zone time limit =>
    withRule text .expandTextIncomplete (expanded zones settings zone time limit)
  | .parse text =>
    withRule text .parseTextIncomplete fun rule =>
      ⟨.ok ⟨Answer.success, Answer.document rule.entries⟩, []⟩
  | .validate text => ⟨.ok (validated text), Rule.plainRemarks text⟩
  | .format text =>
    withRule text .formatTextIncomplete fun rule =>
      match rule.written with
      | .ok line => ⟨.ok ⟨Answer.success, Answer.lines [line]⟩, []⟩
      | .error cause => ⟨.error (.calendar cause), []⟩

end Command

namespace Invocation

/-- The outcome of a run with a journal. -/
def outcomeOf (journal : Journal) (exit : Except Failure Nat) (output : String) : Outcome :=
  ⟨exit, output, journal.textOn .errors, journal.files⟩

/-- Runs a command that was asked for. Settings are loaded and changed by options, the journal is set up, and then
    the command answers; a failure that has no wording for the user ends the run itself. -/
def run (invocation : Invocation) (zones : ZoneDatabase) (surroundings : Surroundings)
    (supportsColor : Bool) (time : String) : Outcome :=
  let opening : Journal := { files := surroundings.files }
  match Settings.load surroundings [] invocation.config with
  | .error fault => outcomeOf opening (.error (.settings fault)) ""
  | .ok loaded =>
    let settings := loaded.value.override invocation.log
    match (opening.report time loaded.notices).setUp settings .errors supportsColor time with
    | (journal, some fault) => outcomeOf journal (.error (.settings fault)) ""
    | (journal, none) =>
      let started := Notice.commandStarted invocation.command.kind.name
      let answered := invocation.command.answer zones settings
      let journal := journal.report time (started :: answered.notices)
      match answered.value with
      | .error fault => outcomeOf journal (.error (.expansion fault)) ""
      | .ok answer => outcomeOf journal (.ok answer.exit) answer.output

end Invocation

/-- What is said of a failure that ends a run. -/
def Failure.message : Failure → String
  | .expansion (.calendar cause) => cause.message
  | .expansion (.numeral cause) => cause.message
  | .expansion fault => (fault.message?).getD "a limit or a bound cannot be used"
  | .settings (.invalid complaints) =>
    let places := complaints.map fun complaint => ".".intercalate complaint.location
    "invalid settings: " ++ ", ".intercalate places
  | .settings _ => "settings cannot be used"

/-- The number of this version. -/
def versionNumber : String := "1.0.0"

/-- What is said of the use of the program. -/
def usage : String := Answer.lines [
  "usage: " ++ programName ++ " [options] COMMAND ...",
  "",
  "commands:",
  "  expand    Expand DTSTART + RRULE text into dated occurrences",
  "  parse     Parse zoned rule text and print JSON",
  "  validate  Validate a plain RRULE line and print the result as JSON",
  "  format    Parse zoned rule text and print it back as an RRULE line"]

/-- Runs the words of a command line. -/
def runWords (zones : ZoneDatabase) (surroundings : Surroundings) (supportsColor : Bool) (time : String)
    (words : List String) : Outcome :=
  match Invocation.ofWords words with
  | .ok invocation => invocation.run zones surroundings supportsColor time
  | .error (.refused program refusal) =>
    { exit := .ok Answer.refused
      errors := Answer.lines [program ++ ": error: " ++ refusal.message]
      files := surroundings.files }
  | .error .version =>
    { exit := .ok Answer.success
      output := Answer.lines [programName ++ " " ++ versionNumber]
      files := surroundings.files }
  | .error .help =>
    { exit := .ok Answer.success, output := usage, files := surroundings.files }

end Recurrence
