import Recurrence.Proofs.Outcome
import Recurrence.Proofs.Value.Entries
import Recurrence.Settings.Load

namespace Recurrence

/-- A setting that a configuration file may give. -/
inductive Setting where
  | occurrenceLimit
  | stepCap
  | targetZone
  | log (setting : LogSetting)
deriving DecidableEq, Repr

namespace Setting

/-- The name at the top of a source under which the setting is given; the settings of the logs share the
    one of their section. -/
def key : Setting → String
  | .occurrenceLimit => "default_occurrence_limit"
  | .stepCap => "max_cursor_steps"
  | .targetZone => "default_target_zone"
  | .log _ => "logging"

/-- What the setting is if nothing gives it. -/
def default : Setting → Value
  | .occurrenceLimit => .int 1000
  | .stepCap => .int 100000
  | .targetZone => .text "UTC"
  | .log setting => setting.default

/-- The value of the setting from a source that is checked. -/
def check : Setting → Value → Except Flaw Value
  | .occurrenceLimit, value => value.positive.map fun number => .int number.val
  | .stepCap, value => value.positive.map fun number => .int number.val
  | .targetZone, value => value.textual.map .text
  | .log setting, value => setting.check value

/-- What the setting is among all settings. -/
def of (settings : Settings) : Setting → Value
  | .occurrenceLimit => settings.occurrenceLimit
  | .stepCap => settings.stepCap
  | .targetZone => settings.targetZone
  | .log setting => settings.log setting

/-- The entries of a section. -/
def sectionOf (name : String) (source : Source) : Source :=
  ((Value.lookup? name source).map Value.entries).getD []

/-- What a source that is checked gives for the setting. -/
def given? (source : Source) : Setting → Option Value
  | .log setting => Value.lookup? setting.name (sectionOf "logging" source)
  | setting => Value.lookup? setting.key source

/-- What a configuration file gives for the setting; null gives nothing but for the logs. -/
def configured? (config : Source) : Setting → Option Value
  | .log setting => Value.lookup? setting.name (sectionOf "logging" config)
  | setting =>
    match Value.lookup? setting.key (sectionOf "expansion" config) with
    | some .null => none
    | found => found

theorem configured?_nil (setting : Setting) : setting.configured? [] = none := by
  cases setting <;> rfl

/-- No setting is a map. -/
theorem check_map (setting : Setting) (entries : List (Value × Value)) :
    ∃ flaw, setting.check (.map entries) = .error flaw := by
  cases setting with
  | log setting => cases setting <;> exact ⟨_, rfl⟩
  | _ => exact ⟨_, rfl⟩

end Setting

theorem LogSetting.mem_all (setting : LogSetting) : setting ∈ all := by
  cases setting <;> decide

namespace Settings

variable {home : Path} {source config : Source} {settings final : Settings}

theorem checked_eq {α : Type} (source : Source) (name : String) (check : Value → Except Flaw α)
    (default : α) :
    checked source name check default =
      ((Value.lookup? name source).map check).getD (.ok default) := by
  unfold checked
  cases Value.lookup? name source <;> rfl

/-- A section of the logs that is accepted is a map in which every setting is. -/
theorem of_checkLog {section_ : Option Value} {log : LogSetting → Value}
    (hlog : checkLog section_ = .ok log) :
    (section_ = none ∧ log = LogSetting.default) ∨
      ∃ entries, section_ = some (.map entries) ∧ ∀ setting : LogSetting,
        checked entries setting.name setting.check setting.default = .ok (log setting) := by
  unfold checkLog at hlog
  split at hlog
  · cases hlog
    exact Or.inl ⟨rfl, rfl⟩
  · next entries =>
    right
    refine ⟨entries, rfl, fun setting => ?_⟩
    dsimp only at hlog
    split at hlog
    · next hnone =>
      cases hlog
      have hsetting := List.flatMap_eq_nil_iff.1 hnone setting setting.mem_all
      cases hfound : checked entries setting.name setting.check setting.default with
      | error flaw =>
        rw [hfound] at hsetting
        cases hsetting
      | ok value =>
        dsimp only
        rw [hfound]
        rfl
    · cases hlog
  · cases hlog

/-- The section of the logs in a source that is accepted is a map. -/
theorem section_of_ofSource (hsettings : ofSource home source = .ok settings) :
    Value.lookup? "logging" source = none ∨
      ∃ entries, Value.lookup? "logging" source = some (.map entries) := by
  simp only [ofSource] at hsettings
  split at hsettings
  · next hlog =>
    rcases of_checkLog hlog with ⟨hnone, -⟩ | ⟨entries, hsome, -⟩
    · exact Or.inl hnone
    · exact Or.inr ⟨entries, hsome⟩
  · cases hsettings

/-- Every setting of a source that is accepted is what the source gives for it, checked, or else its
    default. -/
theorem of_ofSource (hsettings : ofSource home source = .ok settings) (setting : Setting) :
    ((setting.given? source).map setting.check).getD (.ok setting.default) =
      .ok (setting.of settings) := by
  simp only [ofSource] at hsettings
  split at hsettings
  · next hlimit hcap hzone _ hlog =>
    cases hsettings
    rw [checked_eq] at hlimit hcap hzone
    cases setting with
    | occurrenceLimit => exact hlimit
    | stepCap => exact hcap
    | targetZone => exact hzone
    | log setting =>
      rcases of_checkLog hlog with ⟨hnone, rfl⟩ | ⟨entries, hsome, hentries⟩
      · simp only [Setting.given?, Setting.sectionOf, hnone]
        rfl
      · have hsetting := hentries setting
        rw [checked_eq] at hsetting
        simp only [Setting.given?, Setting.sectionOf, hsome]
        exact hsetting
  · cases hsettings

theorem configFile_of_ofSource (hsettings : ofSource home source = .ok settings) :
    settings.configFile = none := by
  simp only [ofSource] at hsettings
  split at hsettings
  · cases hsettings
    rfl
  · cases hsettings

/-- A configuration's section of the logs gives the settings that it has under their names. -/
theorem of_configuredLog {section_ : Value} {current log : LogSetting → Value}
    (hlog : configuredLog section_ current = .ok log) (setting : LogSetting) :
    log setting = (Value.lookup? setting.name section_.entries).getD (current setting) := by
  unfold configuredLog at hlog
  split at hlog
  · next hfalse =>
    cases hlog
    rw [Value.entries_of_not_isTruthy (by simpa using hfalse)]
    rfl
  · split at hlog
    · cases hlog
      rfl
    · split at hlog
      · cases hlog
      · cases hlog
        rfl
    · split at hlog
      · cases hlog
      · cases hlog
        rfl
    · cases hlog

theorem sectionOf_of_expansionEntries {entries : Source} (hentries : expansionEntries config = .ok entries) :
    Setting.sectionOf "expansion" config = entries := by
  unfold expansionEntries at hentries
  unfold Setting.sectionOf
  split at hentries
  · next hnone =>
    cases hentries
    rw [hnone]
    rfl
  · next found hfound =>
    cases hentries
    rw [hfound]
    rfl
  · next value _ hfound =>
    split at hentries
    · cases hentries
    · next hfalse =>
      cases hentries
      rw [hfound]
      exact Value.entries_of_not_isTruthy (by simpa using hfalse)

theorem configured_eq (blocked : List String) (entries : Source) (name : String) (current : Value) :
    configured blocked entries name current =
      if blocked.contains name then current
      else
        (match Value.lookup? name entries with
          | some .null => none
          | found => found).getD current := by
  unfold configured
  cases Value.lookup? name entries with
  | none => simp
  | some value => cases value <;> simp

/-- A section of the logs that is not blocked is put over the settings of the logs. -/
theorem log_of_withConfig {blocked : List String} (hfinal : settings.withConfig blocked config = .ok final)
    (setting : LogSetting) :
    final.log setting =
      if blocked.contains "logging" then settings.log setting
      else (Value.lookup? setting.name (Setting.sectionOf "logging" config)).getD (settings.log setting) := by
  obtain ⟨entries, -, hrest⟩ := bind_eq_ok_iff.1 hfinal
  unfold Setting.sectionOf
  dsimp only at hrest
  split at hrest
  · next hnone =>
    cases hrest
    rw [hnone]
    exact (ite_self _).symm
  · next section_ hsome =>
    rw [hsome]
    split at hrest
    · next hblocked =>
      cases hrest
      rw [if_pos hblocked]
    · next hfree =>
      obtain ⟨log, hlog, hmade⟩ := bind_eq_ok_iff.1 hrest
      cases hmade
      rw [if_neg hfree]
      exact of_configuredLog hlog setting

/-- The expansion section is put over the other settings. -/
theorem expansion_of_withConfig {blocked : List String}
    (hfinal : settings.withConfig blocked config = .ok final) :
    ∃ entries, expansionEntries config = .ok entries ∧
      final.occurrenceLimit =
        configured blocked entries "default_occurrence_limit" settings.occurrenceLimit ∧
      final.stepCap = configured blocked entries "max_cursor_steps" settings.stepCap ∧
      final.targetZone = configured blocked entries "default_target_zone" settings.targetZone := by
  obtain ⟨entries, hentries, hrest⟩ := bind_eq_ok_iff.1 hfinal
  refine ⟨entries, hentries, ?_⟩
  dsimp only at hrest
  split at hrest
  · cases hrest
    exact ⟨rfl, rfl, rfl⟩
  · split at hrest
    · cases hrest
      exact ⟨rfl, rfl, rfl⟩
    · obtain ⟨log, -, hmade⟩ := bind_eq_ok_iff.1 hrest
      cases hmade
      exact ⟨rfl, rfl, rfl⟩

/-- What a configuration gives is put over the settings, except for what is blocked. -/
theorem of_withConfig {blocked : List String} (hfinal : settings.withConfig blocked config = .ok final)
    (setting : Setting) :
    setting.of final =
      if blocked.contains setting.key then setting.of settings
      else (setting.configured? config).getD (setting.of settings) := by
  obtain ⟨entries, hentries, hlimit, hcap, hzone⟩ := expansion_of_withConfig hfinal
  have hsection := sectionOf_of_expansionEntries hentries
  cases setting with
  | log setting => exact log_of_withConfig hfinal setting
  | occurrenceLimit =>
    simp only [Setting.configured?, hsection, Setting.of, hlimit, configured_eq, Setting.key]
  | stepCap =>
    simp only [Setting.configured?, hsection, Setting.of, hcap, configured_eq, Setting.key]
  | targetZone =>
    simp only [Setting.configured?, hsection, Setting.of, hzone, configured_eq, Setting.key]

/-- The settings before any configuration file. -/
def given (surroundings : Surroundings) (arguments : Source) : Except SettingsFault Settings := do
  let source ← sourceOf surroundings arguments
  let home ← surroundings.homeFor source
  (ofSource home source).mapError .invalid

/-- The names that block a configuration file: those of arguments, and those that variables name. -/
def blockedBy (surroundings : Surroundings) (arguments : Source) : List String :=
  Value.names arguments ++ surroundings.environment.blocked

end Settings

/-- The entries of the configuration file at a path, if it is a map. -/
def Surroundings.configAt (surroundings : Surroundings) : Option Path → Source
  | none => []
  | some path =>
    match surroundings.text? path with
    | .ok (some text) =>
      match Yaml.read text with
      | .ok value => value.entries
      | .error _ => []
    | _ => []

namespace Settings

variable {surroundings : Surroundings} {settings : Settings} {arguments : Source}

theorem configAt_of_read {path : Path} {text : Option String} {value : Value}
    (htext : surroundings.text? path = .ok text)
    (hread : (text.map Yaml.read).getD (.error .malformed) = .ok value) :
    surroundings.configAt (some path) = value.entries := by
  cases text with
  | none => cases hread
  | some text =>
    have hvalue : Yaml.read text = .ok value := hread
    simp only [Surroundings.configAt, htext, hvalue]

/-- A configuration file that cannot be used changes nothing and is not taken down as read; one that is read
    is put over the settings as a configuration. -/
theorem of_withConfigFile {blocked : List String} {path : Path} {loaded : Reported Settings}
    (hnone : settings.configFile = none)
    (hloaded : settings.withConfigFile surroundings blocked path = .ok loaded) (setting : Setting) :
    setting.of loaded.value =
      if blocked.contains setting.key then setting.of settings
      else (setting.configured? (surroundings.configAt loaded.value.configFile)).getD (setting.of settings) := by
  have hunchanged : setting.of settings =
      if blocked.contains setting.key then setting.of settings
      else (setting.configured? (surroundings.configAt settings.configFile)).getD (setting.of settings) := by
    rw [hnone, Surroundings.configAt, setting.configured?_nil]
    exact (ite_self _).symm
  obtain ⟨text, htext, hrest⟩ := bind_eq_ok_iff.1 hloaded
  split at hrest
  · cases hrest
    exact hunchanged
  · cases hrest
  · next value hread =>
    have hconfig := configAt_of_read htext hread
    split at hrest
    · next config hmap =>
      have hentries : value.entries = config := by
        split at hmap
        · rw [hmap]
          rfl
        · next hfalse =>
          cases hmap
          exact Value.entries_of_not_isTruthy (by simpa using hfalse)
      obtain ⟨final, hfinal, hmade⟩ := bind_eq_ok_iff.1 hrest
      cases hmade
      have hsetting : setting.of { final with configFile := some path } = setting.of final := by
        cases setting <;> rfl
      dsimp only
      rw [hconfig, hentries, hsetting, of_withConfig hfinal]
    · cases hrest
      exact hunchanged

/-- Loading makes the settings from all other sources, and puts what is left of a configuration file over
    them. -/
theorem of_load {configFile : Option Path} {loaded : Reported Settings}
    (hload : load surroundings arguments configFile = .ok loaded) :
    ∃ settings, given surroundings arguments = .ok settings ∧ ∀ setting : Setting,
      setting.of loaded.value =
        if (blockedBy surroundings arguments).contains setting.key then setting.of settings
        else (setting.configured? (surroundings.configAt loaded.value.configFile)).getD
          (setting.of settings) := by
  obtain ⟨source, hsource, hrest⟩ := bind_eq_ok_iff.1 hload
  obtain ⟨home, hhome, hrest⟩ := bind_eq_ok_iff.1 hrest
  obtain ⟨settings, hsettings, hrest⟩ := bind_eq_ok_iff.1 hrest
  have hgiven : given surroundings arguments = .ok settings := by
    rw [given, hsource]
    simp only [bind, Except.bind, hhome, hsettings]
  have hnone := configFile_of_ofSource (mapError_eq_ok_iff.1 hsettings)
  refine ⟨settings, hgiven, fun setting => ?_⟩
  obtain ⟨found, hfound⟩ : ∃ found : Reported (Option Path),
      (match found.value with
        | none => pure ⟨settings, found.notices⟩
        | some path => do
          let loaded ← settings.withConfigFile surroundings (blockedBy surroundings arguments) path
          return ⟨loaded.value, found.notices ++ loaded.notices⟩) = Except.ok loaded := by
    cases configFile with
    | some path => exact ⟨⟨some path, []⟩, hrest⟩
    | none =>
      obtain ⟨found, -, hfound⟩ := bind_eq_ok_iff.1 hrest
      exact ⟨found, hfound⟩
  split at hfound
  · cases hfound
    rw [hnone, Surroundings.configAt, setting.configured?_nil]
    exact (ite_self _).symm
  · obtain ⟨configured, hconfigured, hmade⟩ := bind_eq_ok_iff.1 hfound
    cases hmade
    exact of_withConfigFile hnone hconfigured setting

end Settings

end Recurrence
