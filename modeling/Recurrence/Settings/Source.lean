import Recurrence.Document.Assignments
import Recurrence.Document.Json.Reader
import Recurrence.Settings.Basic
import Recurrence.Text.Split
import Recurrence.Value.Merge

namespace Recurrence

/-- What a source gives: values under the names of settings. -/
abbrev Source := List (Value × Value)

/-- Variables with their values, in order. They name settings after a prefix, in letters of either case; two
    underscores lead to a setting of the logs. -/
abbrev Variables := List (String × String)

/-- Names in lower case, each once, with their values. A name may stand without a value. -/
abbrev Definitions := Assignments

namespace Definitions

/-- A name in lower case. -/
def lower (name : String) : String := String.ofList (name.toList.map Char.toLower)

/-- What the names of all variables that are settings begin with, in lower case. -/
def mark : String := "rrulezone_"

/-- The definitions that names of either case give: of several with one name the last counts, in the place
    of the first. -/
def ofAssignments (given : Assignments) : Definitions :=
  given.foldl (fun done (name, value) => Assignments.put (lower name) value done) []

/-- The definitions that variables give. -/
def ofVariables (environment : Variables) : Definitions :=
  ofAssignments (environment.map fun (name, value) => (name, some value))

/-- The value that is given for a setting. -/
def setting? (definitions : Definitions) (name : String) : Option String :=
  (definitions.find? (·.1 == mark ++ name)).bind (·.2)

/-- The parts of a text between pairs of underscores. -/
def pathOf : List Char → List (List Char)
  | [] => [[]]
  | '_' :: '_' :: rest => [] :: pathOf rest
  | c :: rest =>
    match pathOf rest with
    | [] => [[c]]
    | part :: more => (c :: part) :: more

/-- The path that a name has below the section of the logs, if it has one. -/
def logPath? (name : String) : Option (List String) :=
  (Text.after? (mark ++ "logging__").toList name.toList).map fun rest =>
    (pathOf rest).map String.ofList

/-- What is given for single settings of the logs. A name without a value gives null. -/
def logEntries (definitions : Definitions) : Source :=
  definitions.foldl (fun entries (name, value) =>
    match logPath? name with
    | some path => Value.putAt ((value.map Value.text).getD .null) path entries
    | none => entries) []

/-- The entries of a section of the logs, under the names of the settings that they mean. -/
def renamed (entries : Source) : Source :=
  entries.foldl (fun done entry =>
    match entry.1 with
    | .text key =>
      let known := LogSetting.all.find? fun setting => setting.name == lower key
      Value.put ((known.map LogSetting.name).getD key) entry.2 done
    | _ => done) []

/-- What is given for the logs. Single settings are put over a JSON text, unless the text is no map. -/
def logging? (definitions : Definitions) : Except SettingsFault (Option Value) :=
  match definitions.setting? "logging" with
  | none =>
    match definitions.logEntries with
    | [] => .ok none
    | entries => .ok (some (.map (renamed entries)))
  | some text =>
    match Json.read text with
    | .error fault => .error (.unreadableSource fault)
    | .ok .null => .ok none
    | .ok (.map entries) =>
      .ok (some (.map (renamed (Value.overlayEntries entries definitions.logEntries))))
    | .ok value => .ok (some value)

/-- Names of the settings that are given as text. -/
def textSettings : List String :=
  ["default_occurrence_limit", "max_cursor_steps", "default_target_zone", "config_dir"]

/-- The source that definitions are. -/
def source (definitions : Definitions) : Except SettingsFault Source := do
  let plain := textSettings.filterMap fun name =>
    (definitions.setting? name).map fun text => (Value.text name, Value.text text)
  let log ← definitions.logging?
  return plain ++ (log.map fun value => (Value.text "logging", value)).toList

end Definitions

namespace Variables

/-- The settings that a name blocks for a configuration file: what follows the prefix, up to the first
    two underscores. -/
def blocked (environment : Variables) : List String :=
  environment.filterMap fun entry =>
    (Text.after? Definitions.mark.toList (Definitions.lower entry.1).toList).map fun rest =>
      String.ofList ((Definitions.pathOf rest).headD [])

end Variables

namespace Settings

/-- A setting that a source may give, checked, and its default otherwise. -/
def checked {α : Type} (source : Source) (name : String) (check : Value → Except Flaw α) (default : α) :
    Except Flaw α :=
  match Value.lookup? name source with
  | some value => check value
  | none => .ok default

/-- A path. -/
def readPath : Value → Except Flaw Path
  | .text text => .ok (.ofText text)
  | _ => .error .notPath

/-- The settings of the logs that a section gives, or all complaints about it. -/
def checkLog (section_ : Option Value) : Except (List Complaint) (LogSetting → Value) :=
  match section_ with
  | none => .ok LogSetting.default
  | some (.map entries) =>
    let found := fun setting : LogSetting =>
      checked entries setting.name setting.check setting.default
    match LogSetting.all.flatMap fun setting => complaintOf ["logging", setting.name] (found setting) with
    | [] => .ok fun setting => (found setting).toOption.getD setting.default
    | complaints => .error complaints
  | some _ => .error [⟨["logging"], .notSection⟩]

/-- The settings that a source gives, or all complaints about it. -/
def ofSource (home : Path) (source : Source) : Except (List Complaint) Settings :=
  let limit := checked source "default_occurrence_limit"
    (fun value => value.positive.map fun number => Value.int number.val) (.int 1000)
  let cap := checked source "max_cursor_steps"
    (fun value => value.positive.map fun number => Value.int number.val) (.int 100000)
  let zone := checked source "default_target_zone" (fun value => value.textual.map .text) (.text "UTC")
  let folder := checked source "config_dir" readPath ((home.child ".config").child "rrulezone")
  let log := checkLog (Value.lookup? "logging" source)
  match limit, cap, zone, folder, log with
  | .ok occurrenceLimit, .ok stepCap, .ok targetZone, .ok configFolder, .ok log =>
    .ok { occurrenceLimit, stepCap, targetZone, configFolder, log }
  | limit, cap, zone, folder, log =>
    .error (complaintOf ["default_occurrence_limit"] limit ++ complaintOf ["max_cursor_steps"] cap ++
      complaintOf ["default_target_zone"] zone ++ complaintOf ["config_dir"] folder ++
      complaintsOf log)

end Settings

end Recurrence
