import Recurrence.Proofs.Settings.Precedence
import Recurrence.Proofs.Text.Search

namespace Recurrence

/-- Whether a value counts as given and is no map. -/
def Value.IsMisshapen (value : Value) : Prop :=
  value.isTruthy = true ∧ ¬ ∃ entries, value = .map entries

namespace Settings

variable {surroundings : Surroundings} {settings : Settings} {arguments config : Source}
  {blocked : List String}

/-- An expansion section that has no entries to look into. -/
def BreaksExpansion (config : Source) : Prop :=
  ∃ value, Value.lookup? "expansion" config = some value ∧ value.IsMisshapen

theorem expansionEntries_fails_iff :
    (∃ fault, expansionEntries config = .error fault) ↔ BreaksExpansion config := by
  unfold expansionEntries BreaksExpansion Value.IsMisshapen
  cases Value.lookup? "expansion" config with
  | none => simp
  | some value =>
    cases value with
    | map entries => simp
    | _ =>
      dsimp only
      split <;> simp_all

/-- What is no map and either holds the name of a setting or is nothing that holds anything. -/
def HoldsLogName : Value → Prop
  | .list items => ∃ setting : LogSetting, .text setting.name ∈ items
  | .text text => ∃ setting : LogSetting, setting.name.toList <:+: text.toList
  | _ => True

theorem any_logSetting_iff {p : LogSetting → Bool} :
    LogSetting.all.any p = true ↔ ∃ setting, p setting = true := by
  rw [List.any_eq_true]
  constructor
  · rintro ⟨setting, -, hsetting⟩
    exact ⟨setting, hsetting⟩
  · rintro ⟨setting, hsetting⟩
    exact ⟨setting, setting.mem_all, hsetting⟩

theorem contains_iff {text part : String} : contains text part = true ↔ part.toList <:+: text.toList :=
  Text.searchFirst_after?_isSome_iff

theorem any_isText_iff {items : List Value} {name : String} :
    items.any (·.isText name) = true ↔ .text name ∈ items := by
  simp only [List.any_eq_true, Value.isText_iff]
  constructor
  · rintro ⟨item, hitem, rfl⟩
    exact hitem
  · intro hitem
    exact ⟨_, hitem, rfl⟩

/-- A section of the logs fails where names are looked for in what holds none, or are found in what is no map. -/
theorem configuredLog_fails_iff {section_ : Value} {current : LogSetting → Value} :
    (∃ fault, configuredLog section_ current = .error fault) ↔
      section_.IsMisshapen ∧ HoldsLogName section_ := by
  unfold configuredLog Value.IsMisshapen
  cases htruthy : section_.isTruthy with
  | false => simp
  | true =>
    simp only [Bool.not_true, Bool.false_eq_true, if_false, true_and]
    cases section_ with
    | map entries => simp
    | list items =>
      rw [ite_fails_iff, any_logSetting_iff, HoldsLogName, and_iff_right (by simp)]
      exact exists_congr fun _ => any_isText_iff
    | text text =>
      rw [ite_fails_iff, any_logSetting_iff, HoldsLogName, and_iff_right (by simp)]
      exact exists_congr fun _ => contains_iff
    | _ => simp [HoldsLogName]

/-- A section of the logs that ends the loading, unless it is blocked. -/
def BreaksLog (blocked : List String) (config : Source) : Prop :=
  "logging" ∉ blocked ∧
    ∃ value, Value.lookup? "logging" config = some value ∧ value.IsMisshapen ∧ HoldsLogName value

theorem withConfig_fails_iff :
    (∃ fault, settings.withConfig blocked config = .error fault) ↔
      BreaksExpansion config ∨ BreaksLog blocked config := by
  unfold withConfig
  rw [bind_fails_iff, expansionEntries_fails_iff]
  constructor
  · rintro (hexpansion | ⟨entries, -, fault, hlog⟩)
    · exact Or.inl hexpansion
    · right
      dsimp only at hlog
      split at hlog
      · cases hlog
      · next section_ hsection =>
        split at hlog
        · cases hlog
        · next hfree =>
          rcases bind_fails_iff.1 ⟨fault, hlog⟩ with hlog | ⟨log, -, _, hmade⟩
          · exact ⟨by simpa using hfree, section_, hsection, configuredLog_fails_iff.1 hlog⟩
          · cases hmade
  · rintro (hexpansion | ⟨hfree, section_, hsection, hlog⟩)
    · exact Or.inl hexpansion
    · by_cases hexpansion : BreaksExpansion config
      · exact Or.inl hexpansion
      · right
        cases hentries : expansionEntries config with
        | error fault => exact absurd (expansionEntries_fails_iff.1 ⟨fault, hentries⟩) hexpansion
        | ok entries =>
          refine ⟨entries, rfl, ?_⟩
          rw [hsection]
          simp only [List.contains_eq_mem, hfree, decide_false, Bool.false_eq_true, if_false]
          rw [bind_fails_iff, configuredLog_fails_iff]
          exact Or.inl hlog

/-- A text that ends the loading as a configuration file: a document with a value that does not exist, or a map
    with a section that ends it. -/
def BreaksLoading (blocked : List String) (text : String) : Prop :=
  (∃ fault, Yaml.read text = .error fault ∧ fault ≠ .malformed) ∨
    ∃ config, Yaml.read text = .ok (.map config) ∧ (BreaksExpansion config ∨ BreaksLog blocked config)

/-- What is read of a file that holds nothing is an empty map; a map is read as it is. -/
theorem shape_map (config : Source) :
    (if (Value.map config).isTruthy then Value.map config else .map []) = .map config := by
  cases config <;> rfl

theorem withConfig_nil_succeeds (settings : Settings) (blocked : List String) :
    ∃ final, settings.withConfig blocked [] = .ok final :=
  withConfig_succeeds settings blocked nofun

theorem withConfigFile_fails_iff {path : Path} {found : Option String}
    (htext : surroundings.text? path = .ok found) :
    (∃ fault, settings.withConfigFile surroundings blocked path = .error fault) ↔
      ∃ text, found = some text ∧ BreaksLoading blocked text := by
  unfold withConfigFile
  rw [htext]
  cases found with
  | none => simp [bind, Except.bind, pure, Except.pure]
  | some text =>
    simp only [Option.some.injEq, exists_eq_left', BreaksLoading]
    simp only [bind, Except.bind, Option.map_some, Option.getD_some]
    cases hread : Yaml.read text with
    | error fault =>
      cases fault with
      | malformed => simp [pure, Except.pure]
      | _ => simp [throw, throwThe, MonadExceptOf.throw]
    | ok value =>
      simp only [reduceCtorEq, false_and, exists_false, false_or, Except.ok.injEq]
      by_cases hmap : ∃ config, value = .map config
      · obtain ⟨config, rfl⟩ := hmap
        simp only [shape_map, Value.map.injEq, exists_eq_left']
        rw [← @withConfig_fails_iff settings config blocked]
        exact bind_fails_iff.trans (or_iff_left (by simp [pure, Except.pure]))
      · refine iff_of_false ?_ fun ⟨config, hvalue, _⟩ => hmap ⟨config, hvalue⟩
        rintro ⟨fault, hfault⟩
        split at hfault
        · next config hshape =>
          split at hshape
          · exact hmap ⟨config, hshape⟩
          · cases hshape
            obtain ⟨final, hfinal⟩ := withConfig_nil_succeeds settings blocked
            rw [hfinal] at hfault
            cases hfault
        · cases hfault

/-- The configuration file that settings are loaded with: one that is asked for, or else one that is found. -/
def selected (surroundings : Surroundings) (settings : Settings) :
    Option Path → Except SettingsFault (Reported (Option Path))
  | some path => .ok ⟨some path, []⟩
  | none => findConfig surroundings settings.configFolder

/-- Where the other sources are accepted, only the configuration file is left to be read. -/
theorem load_of_selected {configFile : Option Path} {path : Path} {notices : List Notice}
    (hgiven : given surroundings arguments = .ok settings)
    (hselected : selected surroundings settings configFile = .ok ⟨some path, notices⟩) :
    load surroundings arguments configFile =
      (settings.withConfigFile surroundings (blockedBy surroundings arguments) path).map fun loaded =>
        ⟨loaded.value, notices ++ loaded.notices⟩ := by
  obtain ⟨source, hsource, hrest⟩ := bind_eq_ok_iff.1 hgiven
  obtain ⟨home, hhome, hsettings⟩ := bind_eq_ok_iff.1 hrest
  unfold load
  rw [hsource]
  simp only [bind, Except.bind, hhome, hsettings]
  cases configFile with
  | some other =>
    cases hselected
    rfl
  | none =>
    rw [selected] at hselected
    simp only [hselected]
    rfl

end Settings

namespace Setting

variable {setting : Setting} {config : Source}

/-- The name of the section in which a configuration file has the setting. -/
def sectionName : Setting → String
  | .log _ => "logging"
  | _ => "expansion"

/-- A configuration whose section is no map gives none of its settings. -/
theorem configured?_eq_none
    (hshape : ∀ entries, Value.lookup? setting.sectionName config ≠ some (.map entries)) :
    setting.configured? config = none := by
  have hsection : sectionOf setting.sectionName config = [] := by
    unfold sectionOf
    cases hvalue : Value.lookup? setting.sectionName config with
    | none => rfl
    | some value =>
      cases value with
      | map entries => exact absurd hvalue (hshape entries)
      | _ => rfl
  cases setting with
  | log setting =>
    rw [configured?, show sectionOf "logging" config = [] from hsection]
    rfl
  | _ =>
    simp only [configured?, show sectionOf "expansion" config = [] from hsection]
    rfl

end Setting

/-- Whether a file that was read is a document with a map as its section of a name. -/
def HoldsSection (found : Option String) (name : String) : Prop :=
  ∃ text config entries, found = some text ∧ Yaml.read text = .ok (.map config) ∧
    Value.lookup? name config = some (.map entries)

/-- Whether a file that was read is a document with a map, or with nothing that counts as given. -/
def IsConfiguration (found : Option String) : Prop :=
  ∃ text value, found = some text ∧ Yaml.read text = .ok value ∧ ¬ value.IsMisshapen

namespace Settings

variable {surroundings : Surroundings} {settings : Settings} {arguments config : Source}
  {blocked : List String} {path : Path} {found : Option String} {loaded : Reported Settings}

theorem configured?_configAt (htext : surroundings.text? path = .ok found) {setting : Setting}
    (hsection : ¬ HoldsSection found setting.sectionName) :
    setting.configured? (surroundings.configAt (some path)) = none := by
  simp only [Surroundings.configAt, htext]
  split
  · next text hfound =>
    cases hfound
    split
    · next value hread =>
      apply Setting.configured?_eq_none
      intro entries hentries
      cases value with
      | map config => exact hsection ⟨text, config, entries, rfl, hread, hentries⟩
      | _ => cases hentries
    · exact setting.configured?_nil
  · exact setting.configured?_nil

/-- A configuration file is taken down where it is read as one, and otherwise leaves the settings alone. -/
theorem configFile_of_withConfigFile (htext : surroundings.text? path = .ok found)
    (hloaded : settings.withConfigFile surroundings blocked path = .ok loaded) :
    (IsConfiguration found ∧ loaded.value.configFile = some path) ∨ loaded.value = settings := by
  obtain ⟨text, hfound, hrest⟩ := bind_eq_ok_iff.1 hloaded
  rw [htext] at hfound
  cases hfound
  split at hrest
  · cases hrest
    exact Or.inr rfl
  · cases hrest
  · next value hread =>
    split at hrest
    · next config hshape =>
      obtain ⟨final, -, hmade⟩ := bind_eq_ok_iff.1 hrest
      cases hmade
      refine Or.inl ⟨?_, rfl⟩
      cases found with
      | none => cases hread
      | some text =>
        refine ⟨text, value, rfl, hread, fun hmisshapen => ?_⟩
        rw [if_pos hmisshapen.1] at hshape
        exact hmisshapen.2 ⟨config, hshape⟩
    · cases hrest
      exact Or.inr rfl

/-- A section that is no map leaves its settings alone. -/
theorem of_withConfigFile_of_not_holdsSection (hnone : settings.configFile = none)
    (htext : surroundings.text? path = .ok found)
    (hloaded : settings.withConfigFile surroundings blocked path = .ok loaded) {setting : Setting}
    (hsection : ¬ HoldsSection found setting.sectionName) :
    setting.of loaded.value = setting.of settings := by
  rcases configFile_of_withConfigFile htext hloaded with ⟨-, hfile⟩ | hsame
  · rw [of_withConfigFile hnone hloaded, hfile, configured?_configAt htext hsection]
    exact ite_self _
  · rw [hsame]

/-- Where the other sources are accepted, a configuration file ends the loading exactly if it is a document with a
    value that does not exist, or one with a section that ends it. Any other file leaves alone what it has no map
    for: all settings if it is no document or no map, and else those of a section that is none. -/
theorem load_fails_iff_breaksLoading {configFile : Option Path} {notices : List Notice}
    (hgiven : given surroundings arguments = .ok settings)
    (hselected : selected surroundings settings configFile = .ok ⟨some path, notices⟩)
    (htext : surroundings.text? path = .ok found) :
    ((∃ fault, load surroundings arguments configFile = .error fault) ↔
      ∃ text, found = some text ∧ BreaksLoading (blockedBy surroundings arguments) text) ∧
    ∀ loaded, load surroundings arguments configFile = .ok loaded →
      (¬ IsConfiguration found → loaded.value = settings) ∧
      ∀ setting : Setting, ¬ HoldsSection found setting.sectionName →
        setting.of loaded.value = setting.of settings := by
  have hload := load_of_selected hgiven hselected
  obtain ⟨source, -, hrest⟩ := bind_eq_ok_iff.1 hgiven
  obtain ⟨home, -, hsettings⟩ := bind_eq_ok_iff.1 hrest
  have hnone := configFile_of_ofSource (mapError_eq_ok_iff.1 hsettings)
  rw [hload, map_fails_iff, withConfigFile_fails_iff htext]
  refine ⟨Iff.rfl, fun loaded hloaded => ?_⟩
  obtain ⟨configured, hconfigured, rfl⟩ := map_eq_ok_iff.1 hloaded
  refine ⟨fun hother => ?_, fun setting hsection => ?_⟩
  · rcases configFile_of_withConfigFile htext hconfigured with ⟨hread, -⟩ | hsame
    · exact absurd hread hother
    · exact hsame
  · exact of_withConfigFile_of_not_holdsSection hnone htext hconfigured hsection

/-- A current folder with a configuration file. -/
def folderWith (text : String) : Surroundings where
  files :=
    { current := ⟨"/", ["work"]⟩
      files := [(["work", "config.yaml"], text)] }

theorem not_holdsSection_of_list {text name : String}
    (hlist : ((Yaml.read text).toOption.bind fun value => Value.lookup? name value.entries).any
      (fun | .list _ => true | _ => false) = true) : ¬ HoldsSection (some text) name := by
  rintro ⟨_, config, entries, hsame, hread, hsection⟩
  cases hsame
  rw [hread] at hlist
  change (Value.lookup? name config).any _ = true at hlist
  rw [hsection] at hlist
  cases hlist

/-- A number for the expansion section ends the loading. An empty list for it is left out, and so is a list for the
    logs that names none of their settings. -/
theorem load_folderWith :
    (∃ fault, load (folderWith "expansion: 5\n") [] (some (.ofText "config.yaml")) = .error fault) ∧
    ∃ settings loaded, given (folderWith "expansion: []\nlogging: [debug]\n") [] = .ok settings ∧
      load (folderWith "expansion: []\nlogging: [debug]\n") [] (some (.ofText "config.yaml")) = .ok loaded ∧
      ∀ setting : Setting, setting.of loaded.value = setting.of settings := by
  constructor
  · obtain ⟨settings, hgiven⟩ : ∃ settings, given (folderWith "expansion: 5\n") [] = .ok settings :=
      toOption_isSome_iff.1 (by decide +kernel)
    have htext : (folderWith "expansion: 5\n").text? (.ofText "config.yaml") = .ok (some "expansion: 5\n") :=
      toOption_eq_some_iff.1 (by decide +kernel)
    obtain ⟨value, hread, hexpansion⟩ : ∃ value, (Yaml.read "expansion: 5\n").toOption = some value ∧
        ((Value.lookup? "expansion" value.entries).any fun found =>
          found.isTruthy && found.positive.toOption.isSome) = true :=
      (Option.any_eq_true _ _).1 (by decide +kernel)
    obtain ⟨found, hfound, hnumber⟩ := (Option.any_eq_true _ _).1 hexpansion
    obtain ⟨htruthy, hpositive⟩ := Bool.and_eq_true_iff.1 hnumber
    have hentries : value.entries ≠ [] := List.ne_nil_of_mem (Value.mem_of_lookup? hfound)
    have hmap := (toOption_eq_some_iff.1 hread).trans (congrArg Except.ok (Value.eq_map_of_entries hentries))
    have hbreaks : BreaksExpansion value.entries := by
      refine ⟨found, hfound, htruthy, ?_⟩
      rintro ⟨entries, rfl⟩
      cases hpositive
    exact (load_fails_iff_breaksLoading hgiven rfl htext).1.2 ⟨_, rfl, Or.inr ⟨_, hmap, Or.inl hbreaks⟩⟩
  · obtain ⟨settings, hgiven⟩ :
        ∃ settings, given (folderWith "expansion: []\nlogging: [debug]\n") [] = .ok settings :=
      toOption_isSome_iff.1 (by decide +kernel)
    have htext : (folderWith "expansion: []\nlogging: [debug]\n").text? (.ofText "config.yaml") =
        .ok (some "expansion: []\nlogging: [debug]\n") :=
      toOption_eq_some_iff.1 (by decide +kernel)
    obtain ⟨loaded, hloaded⟩ : ∃ loaded, load (folderWith "expansion: []\nlogging: [debug]\n") []
        (some (.ofText "config.yaml")) = .ok loaded :=
      toOption_isSome_iff.1 (by decide +kernel)
    refine ⟨settings, loaded, hgiven, hloaded, fun setting => ?_⟩
    apply ((load_fails_iff_breaksLoading hgiven rfl htext).2 loaded hloaded).2
    cases setting with
    | log setting =>
      rw [Setting.sectionName]
      exact not_holdsSection_of_list (by decide +kernel)
    | _ => exact not_holdsSection_of_list (by decide +kernel)

end Settings

end Recurrence
