import Recurrence.CommandLine.Run

namespace Recurrence

open CommandLine

namespace Settings

/-- The configuration files that loading may look at. -/
def configPaths (surroundings : Surroundings) (asked : Option Path) : List Path :=
  let named := (surroundings.valueOf? "RRULEZONE_CONFIG_FILE").bind fun text =>
    (surroundings.expanded (.ofText text)).toOption
  let folder := (sourceOf surroundings []).toOption.bind fun source =>
    (surroundings.homeFor source).toOption.bind fun home =>
      (ofSource home source).toOption.map fun settings =>
        settings.configFolder.child "config.yaml"
  asked.toList ++ named.toList ++
    [(surroundings.files.current.child "config").child "config.yaml"] ++ folder.toList

/-- The log file that settings ask for, and its backups. -/
def logPaths (settings : Settings) (files : FileTree) : List Path :=
  match settings.logFolder with
  | .error _ => []
  | .ok folder =>
    let path := Journal.logPath settings files folder
    let backups := ((Journal.numberFor? settings .maxLogFiles).getD 0).toNat
    path :: (List.range backups).map fun number =>
      ⟨path.root, LogFile.backup path.parts (number + 1)⟩

end Settings

namespace Invocation

/-- The files that a run may look at, as far as what is known of them shows. -/
def reach (invocation : Invocation) (surroundings : Surroundings) : List Path :=
  let log :=
    match Settings.load surroundings [] invocation.config with
    | .error _ => []
    | .ok loaded => (loaded.value.override invocation.log).logPaths surroundings.files
  .ofText ".env" :: Settings.configPaths surroundings invocation.config ++ log

end Invocation

/-- The files that a command line may look at. -/
def reachOf (surroundings : Surroundings) (words : List String) : List Path :=
  match Invocation.ofWords words with
  | .ok invocation => invocation.reach surroundings
  | .error _ => []

end Recurrence
