import Recurrence.Document.Yaml.Document
import Recurrence.Log.Notice
import Recurrence.Settings.Source
import Recurrence.Storage.FileTree

namespace Recurrence

/-- What settings are loaded from. -/
structure Surroundings where
  environment : Variables := []
  files : FileTree
  /-- The home folders of users, under their names. -/
  homes : List (String × Path) := []

namespace Surroundings

/-- The value of a variable; names are exact. -/
def valueOf? (surroundings : Surroundings) (name : String) : Option String :=
  (surroundings.environment.reverse.find? (·.1 == name)).map (·.2)

/-- The home folder of a user. -/
def homeOf? (surroundings : Surroundings) (user : String) : Option Path :=
  (surroundings.homes.find? (·.1 == user)).map (·.2)

/-- The home folder of the user who runs the program. An empty one is the root, and a name that begins
    with a tilde tells nothing. -/
def home? (surroundings : Surroundings) : Option Path :=
  match surroundings.valueOf? "HOME" with
  | some text =>
    if text.isEmpty then some (.ofText "/")
    else if text.toList.head? = some '~' then none
    else some (.ofText text)
  | none => some ((surroundings.homeOf? "root").getD (.ofText "/"))

/-- A path in which a tilde at the start is replaced. -/
def expanded (surroundings : Surroundings) (path : Path) : Except SettingsFault Path :=
  let homeOf (user : String) : Option Path :=
    if user.isEmpty then surroundings.home? else surroundings.homeOf? user
  match path.expandHome homeOf with
  | some found => .ok found
  | none => .error .unknownHome

/-- The home folder that the configuration folder lies in by default. Where a source gives the
    configuration folder it plays no part. -/
def homeFor (surroundings : Surroundings) (source : Source) : Except SettingsFault Path :=
  match surroundings.home? with
  | some home => .ok home
  | none =>
    if (Value.lookup? "config_dir" source).isSome then .ok (.ofText "/") else .error .unknownHome

/-- Whether anything is at the end of a path. -/
def pathExists (surroundings : Surroundings) (path : Path) : Except SettingsFault Bool :=
  (surroundings.files.pathExists path).mapError .storage

/-- The text of a file, with every line break written as a line feed. -/
def text? (surroundings : Surroundings) (path : Path) : Except SettingsFault (Option String) :=
  match surroundings.files.read? path with
  | .error fault => .error (.storage fault)
  | .ok found =>
    .ok (found.map fun text => Text.replaceAll "\r" "\n" (Text.replaceAll "\r\n" "\n" text))

/-- The assignments of the file `.env`, whose values may refer to variables. -/
def assignments (surroundings : Surroundings) : Assignments :=
  let given := ((surroundings.text? (.ofText ".env")).toOption.bind id).map Assignments.read
  Assignments.resolve surroundings.valueOf? (given.getD [])

end Surroundings

namespace Settings

/-- The configuration file that is found where none is asked for: one named by a variable, one below
    the current folder, or one in the configuration folder. -/
def findConfig (surroundings : Surroundings) (configFolder : Path) :
    Except SettingsFault (Reported (Option Path)) := do
  match (surroundings.valueOf? "RRULEZONE_CONFIG_FILE").filter (!·.isEmpty) with
  | none =>
    let candidates :=
      [(surroundings.files.current.child "config").child "config.yaml",
        configFolder.child "config.yaml"]
    return ⟨← candidates.findM? surroundings.pathExists, []⟩
  | some text =>
    let path ← surroundings.expanded (.ofText text)
    if ← surroundings.pathExists path then return ⟨some path, []⟩
    else return ⟨none, [.configMissing path.text]⟩

/-- The entries of a configuration's expansion section. What does not count as given has none. -/
def expansionEntries (config : Source) : Except SettingsFault Source :=
  match Value.lookup? "expansion" config with
  | none => .ok []
  | some (.map entries) => .ok entries
  | some value => if value.isTruthy then .error .expansionNotSection else .ok []

/-- The value that a configuration has for a setting, unless the setting is blocked or the value null. -/
def configured (blocked : List String) (entries : Source) (name : String) (current : Value) : Value :=
  match Value.lookup? name entries with
  | none => current
  | some .null => current
  | some value => if blocked.contains name then current else value

/-- Whether a text holds another. -/
def contains (text part : String) : Bool :=
  (Text.searchFirst (fun rest => Text.after? part.toList rest) text.toList).isSome

/-- The settings of the logs under a configuration's section. A section that is no map may hold nothing
    that looks like the name of a setting. -/
def configuredLog (section_ : Value) (current : LogSetting → Value) :
    Except SettingsFault (LogSetting → Value) :=
  if !section_.isTruthy then .ok current
  else
    match section_ with
    | .map entries =>
      .ok fun setting => (Value.lookup? setting.name entries).getD (current setting)
    | .list items =>
      if LogSetting.all.any fun setting => items.any (·.isText setting.name) then .error .logNotUsable
      else .ok current
    | .text text =>
      if LogSetting.all.any fun setting => contains text setting.name then .error .logNotUsable
      else .ok current
    | _ => .error .logNotUsable

/-- The settings with what a configuration gives put over them, except for what is blocked. -/
def withConfig (settings : Settings) (blocked : List String) (config : Source) :
    Except SettingsFault Settings := do
  let entries ← expansionEntries config
  let log ←
    match Value.lookup? "logging" config with
    | none => pure settings.log
    | some section_ =>
      if blocked.contains "logging" then pure settings.log else configuredLog section_ settings.log
  return { settings with
    occurrenceLimit := configured blocked entries "default_occurrence_limit" settings.occurrenceLimit
    stepCap := configured blocked entries "max_cursor_steps" settings.stepCap
    targetZone := configured blocked entries "default_target_zone" settings.targetZone
    log }

/-- The settings with a configuration file. -/
def withConfigFile (settings : Settings) (surroundings : Surroundings) (blocked : List String)
    (path : Path) : Except SettingsFault (Reported Settings) := do
  let text ← surroundings.text? path
  match (text.map Yaml.read).getD (.error .malformed) with
  | .error .malformed => return ⟨settings, [.configUnreadable path.text]⟩
  | .error fault => throw (.document fault)
  | .ok value =>
    match if value.isTruthy then value else .map [] with
    | .map config => do
      let settings ← settings.withConfig blocked config
      return ⟨{ settings with configFile := some path }, [.configLoaded path.text]⟩
    | _ => return ⟨settings, [.configIgnored path.text]⟩

/-- The source of all settings apart from a configuration file. -/
def sourceOf (surroundings : Surroundings) (arguments : Source) : Except SettingsFault Source := do
  let environment ← (Definitions.ofVariables surroundings.environment).source
  let assignments ← (Definitions.ofAssignments surroundings.assignments).source
  return Value.overlayEntries (Value.overlayEntries assignments environment) arguments

/-- The settings for arguments, in their surroundings. Arguments come before variables, and these before the
    assignments of the file `.env`; a configuration file, asked for or found, then sets what neither an argument
    nor a variable names. One that cannot be read, or holds no map, is reported and left out. -/
def load (surroundings : Surroundings) (arguments : Source) (configFile : Option Path) :
    Except SettingsFault (Reported Settings) := do
  let source ← sourceOf surroundings arguments
  let home ← surroundings.homeFor source
  let settings ← (ofSource home source).mapError .invalid
  let names := arguments.filterMap fun entry =>
    match entry.1 with
    | .text name => some name
    | _ => none
  let blocked := names ++ surroundings.environment.blocked
  let found : Reported (Option Path) ←
    match configFile with
    | some path => pure ⟨some path, []⟩
    | none => findConfig surroundings settings.configFolder
  match found.value with
  | none => return ⟨settings, found.notices⟩
  | some path => do
    let loaded ← settings.withConfigFile surroundings blocked path
    return ⟨loaded.value, found.notices ++ loaded.notices⟩

end Settings

end Recurrence
