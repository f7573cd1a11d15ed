import Recurrence.Expansion.Generate
import Recurrence.Settings.Load

namespace Recurrence

/-- What is kept between uses: settings, which are loaded when they are first needed, and zones that have been
    found. -/
structure Workspace where
  surroundings : Surroundings
  settings : Option Settings := none
  zones : ZoneMemory := {}

/-- Why a use of the library fails. -/
inductive Failure where
  | expansion (fault : Fault)
  | settings (fault : SettingsFault)

namespace Workspace

/-- The settings, loaded now if they were not before. -/
def withSettings (workspace : Workspace) :
    Except SettingsFault (Reported Settings × Workspace) :=
  match workspace.settings with
  | some settings => .ok (⟨settings, []⟩, workspace)
  | none => do
    let loaded ← Settings.load workspace.surroundings [] none
    return (loaded, { workspace with settings := some loaded.value })

/-- Forgets the settings. -/
def forgetSettings (workspace : Workspace) : Workspace := { workspace with settings := none }

/-- The occurrences of zoned rule text in written form, in a zone and at a reference time. -/
def generate (workspace : Workspace) (zones : ZoneDatabase) (text zone clock : Value) :
    Reported (Except Failure (List String)) × Workspace :=
  let (first, remembered) := Request.read zones workspace.zones text zone clock
  let workspace := { workspace with zones := remembered }
  match first.value with
  | .error fault => (⟨.error (.expansion fault), first.notices⟩, workspace)
  | .ok none => (⟨.ok [], first.notices⟩, workspace)
  | .ok (some request) =>
    match workspace.withSettings with
    | .error fault => (⟨.error (.settings fault), first.notices⟩, workspace)
    | .ok (loaded, workspace) =>
      let second := request.answer loaded.value.limits
      (⟨second.value.mapError .expansion, first.notices ++ loaded.notices ++ second.notices⟩,
        workspace)

/-- The occurrences of a rule. -/
def occurrences (workspace : Workspace) (rule : Rule) :
    Reported (Except Failure (List Moment)) × Workspace :=
  match rule.start with
  | none => (⟨.error (.expansion .noStart), []⟩, workspace)
  | some _ =>
    match workspace.withSettings with
    | .error fault => (⟨.error (.settings fault), []⟩, workspace)
    | .ok (loaded, workspace) =>
      match Plan.make rule none none loaded.value.limits with
      | .error fault => (⟨.error (.expansion fault), loaded.notices⟩, workspace)
      | .ok plan =>
        let run := plan.run
        (⟨run.all.mapError .expansion, loaded.notices ++ run.remarks plan⟩, workspace)

end Workspace

end Recurrence
