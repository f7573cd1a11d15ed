import Recurrence.Settings.Basic

namespace Recurrence

/-- The options of a command line that concern the logs. -/
structure LogOptions where
  logLevel : Value := .null
  verbose : Value := .null
  quiet : Value := .null
  logFolder : Value := .null
  noColors : Value := .null

namespace Settings

/-- Sets some settings of the logs if an option was given. -/
def changeIf (settings : Settings) (given : Value) (changes : List (LogSetting × Value)) : Settings :=
  if given.isTruthy then
    changes.foldl (fun settings change => settings.withLog change.1 change.2) settings
  else settings

/-- The settings with the options of a command line. An option that was not given, or is empty, changes nothing;
    quiet comes after verbose, and verbose after a level. -/
def override (settings : Settings) (options : LogOptions) : Settings :=
  let leveled := settings.changeIf options.logLevel
    [(.consoleLevel, options.logLevel), (.fileLevel, options.logLevel)]
  let talkative := leveled.changeIf options.verbose
    [(.consoleLevel, .text "VERBOSE"), (.fileLevel, .text "VERBOSE")]
  let silenced := talkative.changeIf options.quiet [(.consoleLevel, .text "ERROR")]
  let placed := silenced.changeIf options.logFolder
    [(.fileEnabled, .bool true), (.fileDirectory, options.logFolder)]
  placed.changeIf options.noColors [(.consoleColors, .bool false)]

end Settings

end Recurrence
