import Recurrence.Document.Json.Reader
import Recurrence.Document.Yaml.Fault
import Recurrence.Expansion.Run
import Recurrence.Storage.FileTree
import Recurrence.Value.Check

namespace Recurrence

/-- A setting of the logs. -/
inductive LogSetting where
  | consoleEnabled
  | consoleLevel
  | consoleColors
  | fileEnabled
  | fileLevel
  | fileDirectory
  | filePrefix
  | maxLogFiles
  | maxLogBytes
  | includeFunctionNames
  | thirdPartyLevel
deriving DecidableEq, Repr

namespace LogSetting

/-- All settings of the logs. -/
def all : List LogSetting :=
  [.consoleEnabled, .consoleLevel, .consoleColors, .fileEnabled, .fileLevel, .fileDirectory,
    .filePrefix, .maxLogFiles, .maxLogBytes, .includeFunctionNames, .thirdPartyLevel]

/-- The name of a setting in every source. -/
def name : LogSetting → String
  | .consoleEnabled => "console_enabled"
  | .consoleLevel => "console_level"
  | .consoleColors => "console_colors"
  | .fileEnabled => "file_enabled"
  | .fileLevel => "file_level"
  | .fileDirectory => "file_directory"
  | .filePrefix => "file_prefix"
  | .maxLogFiles => "max_log_files"
  | .maxLogBytes => "max_log_bytes"
  | .includeFunctionNames => "include_function_names"
  | .thirdPartyLevel => "third_party_level"

/-- What a setting is if no source gives it. -/
def default : LogSetting → Value
  | .consoleEnabled => .bool true
  | .consoleLevel => .text "WARNING"
  | .consoleColors => .bool true
  | .fileEnabled => .bool false
  | .fileLevel => .text "DEBUG"
  | .fileDirectory => .null
  | .filePrefix => .text "rrulezone"
  | .maxLogFiles => .int 5
  | .maxLogBytes => .int 1000000
  | .includeFunctionNames => .bool true
  | .thirdPartyLevel => .text "WARNING"

/-- The value of a setting from a source that is checked. -/
def check (setting : LogSetting) (value : Value) : Except Flaw Value :=
  match setting with
  | .consoleEnabled | .consoleColors | .fileEnabled | .includeFunctionNames =>
    value.truth.map .bool
  | .maxLogFiles | .maxLogBytes => value.integer.map .int
  | .consoleLevel | .fileLevel | .filePrefix | .thirdPartyLevel => value.textual.map .text
  | .fileDirectory => (value.optional Value.textual).map fun found => (found.map .text).getD .null

end LogSetting

/-- All settings together, with the configuration file that they come from, if any. Those given by arguments and
    by the environment are checked, those of a configuration file are taken as they are. -/
structure Settings where
  occurrenceLimit : Value := .int 1000
  stepCap : Value := .int 100000
  targetZone : Value := .text "UTC"
  configFolder : Path
  log : LogSetting → Value := LogSetting.default
  configFile : Option Path := none

/-- Why settings cannot be had. -/
inductive SettingsFault where
  | invalid (complaints : List Complaint)
  /-- A source holds a section that cannot be read as a JSON text. -/
  | unreadableSource (fault : Json.Fault)
  /-- A configuration file is a document with a value that does not exist. -/
  | document (fault : Yaml.Fault)
  /-- The expansion section of a configuration file has no entries to look into. -/
  | expansionNotSection
  /-- A section or a setting of the logs is of a type that it cannot be used with. -/
  | logNotUsable
  /-- A log level is no text. -/
  | levelNotText
  /-- A path begins with the home folder of a user who is not known. -/
  | unknownHome
  | storage (fault : StorageFault)
deriving DecidableEq, Repr

namespace Settings

/-- The settings with another value for one setting of the logs. -/
def withLog (settings : Settings) (setting : LogSetting) (value : Value) : Settings :=
  { settings with log := fun other => if other = setting then value else settings.log other }

/-- The folder of log files: the one that is set, or else one below the configuration folder. -/
def logFolder (settings : Settings) : Except SettingsFault Path :=
  match settings.log .fileDirectory with
  | .text folder =>
    .ok (if folder.isEmpty then settings.configFolder.child "logs" else .ofText folder)
  | value =>
    if value.isTruthy then .error .logNotUsable else .ok (settings.configFolder.child "logs")

/-- What expansions fall back to. -/
def limits (settings : Settings) : Limits where
  occurrences := .ofValue settings.occurrenceLimit
  steps := .ofValue settings.stepCap

end Settings

end Recurrence
