import Recurrence.Proofs.Settings.Variables

namespace Recurrence

namespace Setting

variable {setting : Setting} {old new : Source} {given : Value}

theorem lookup?_logging_of_given? {setting : LogSetting}
    (hgiven : (Setting.log setting).given? new = some given) :
    ∃ entries, Value.lookup? "logging" new = some (.map entries) ∧
      Value.lookup? setting.name entries = some given := by
  rw [given?, sectionOf] at hgiven
  cases hsection : Value.lookup? "logging" new with
  | none =>
    rw [hsection] at hgiven
    cases hgiven
  | some value =>
    rw [hsection] at hgiven
    cases value with
    | map entries => exact ⟨entries, rfl, hgiven⟩
    | _ => cases hgiven

/-- A source that gives a setting gives it also when it is put over another. -/
theorem given?_overlayEntries_of_some (old : Source) (hgiven : setting.given? new = some given) :
    ∃ base, setting.given? (Value.overlayEntries old new) = some (Value.overlay base given) := by
  cases setting with
  | log setting =>
    obtain ⟨entries, hsection, hentry⟩ := lookup?_logging_of_given? hgiven
    obtain ⟨base, hmerged⟩ := Value.lookup?_overlayEntries_of_some old hsection
    rw [given?, sectionOf, hmerged, Option.map_some, Option.getD_some]
    by_cases hbase : ∃ inner, base = .map inner
    · obtain ⟨inner, rfl⟩ := hbase
      rw [Value.overlay]
      exact Value.lookup?_overlayEntries_of_some inner hentry
    · refine ⟨.null, ?_⟩
      rw [Value.overlay_of_not_map hbase, Value.overlay_of_not_map (by simp)]
      exact hentry
  | _ => exact Value.lookup?_overlayEntries_of_some old hgiven

/-- A source that does not give a setting leaves it as it is, if it has every name once and its section of
    the logs, if any, is a map. -/
theorem given?_overlayEntries_of_none (old : Source) (hnames : (Value.names new).Nodup)
    (hsection : ∀ value, Value.lookup? "logging" new = some value → ∃ entries, value = .map entries)
    (hnone : setting.given? new = none) :
    setting.given? (Value.overlayEntries old new) = setting.given? old := by
  cases setting with
  | log setting =>
    rw [given?, sectionOf, given?, sectionOf]
    cases hnew : Value.lookup? "logging" new with
    | none => rw [Value.lookup?_overlayEntries_of_none hnew]
    | some value =>
      obtain ⟨entries, rfl⟩ := hsection value hnew
      have hentries : Value.lookup? setting.name entries = none := by
        rw [given?, sectionOf, hnew] at hnone
        exact hnone
      rw [Value.lookup?_overlayEntries_of_nodup hnames hnew, Option.map_some, Option.getD_some]
      have hplain : ∀ base : Value, (¬ ∃ inner, base = .map inner) →
          Value.lookup? setting.name (Value.overlay base (.map entries)).entries = none := by
        intro base hbase
        rw [Value.overlay_of_not_map hbase]
        exact hentries
      cases hold : Value.lookup? "logging" old with
      | none => exact hplain .null (by simp)
      | some base =>
        cases base with
        | map inner =>
          simp only [Value.overlay, Value.entries, Option.map_some, Option.getD_some]
          exact Value.lookup?_overlayEntries_of_none hentries
        | _ => exact hplain _ (by simp)
  | _ => exact Value.lookup?_overlayEntries_of_none hnone

/-- What is accepted after it was put over something is accepted as it is. -/
theorem check_of_overlay {base value : Value}
    (haccepted : setting.check (Value.overlay base given) = .ok value) : setting.check given = .ok value := by
  rcases Value.overlay_eq_or base given with hsame | ⟨entries, hmap⟩
  · rwa [hsame] at haccepted
  · obtain ⟨flaw, hrefused⟩ := setting.check_map entries
    rw [hmap, hrefused] at haccepted
    cases haccepted

/-- Of what is offered for a setting, one after the other, the first that is anything counts, and otherwise
    the default. -/
def first (setting : Setting) (offers : List (Option (Except Flaw Value))) : Except Flaw Value :=
  (offers.findSome? id).getD (.ok setting.default)

theorem first_some (setting : Setting) (offer : Except Flaw Value)
    (offers : List (Option (Except Flaw Value))) : setting.first (some offer :: offers) = offer := rfl

theorem first_none (setting : Setting) (offers : List (Option (Except Flaw Value))) :
    setting.first (none :: offers) = setting.first offers := rfl

theorem first_singleton (setting : Setting) (offer : Option (Except Flaw Value)) :
    setting.first [offer] = offer.getD (.ok setting.default) := by
  cases offer <;> rfl

end Setting

namespace Surroundings

/-- What the variables give. -/
def fromVariables (surroundings : Surroundings) : Source :=
  (Definitions.ofVariables surroundings.environment).source.toOption.getD []

/-- What the assignments of the file `.env` give, with the variables put over them. -/
def fromAssignments (surroundings : Surroundings) : Source :=
  Value.overlayEntries ((Definitions.ofAssignments surroundings.assignments).source.toOption.getD [])
    surroundings.fromVariables

end Surroundings

/-- What is offered for a setting, in the order in which the sources count: by arguments, by variables, by
    the entries of a configuration file, and by the assignments of the file `.env`. What a configuration
    offers is taken as it is. -/
def Setting.offers (surroundings : Surroundings) (arguments config : Source) (setting : Setting) :
    List (Option (Except Flaw Value)) :=
  [(setting.given? arguments).map setting.check,
    (setting.given? surroundings.fromVariables).map setting.check,
    (setting.configured? config).map .ok,
    (setting.given? surroundings.fromAssignments).map setting.check]

namespace Settings

variable {surroundings : Surroundings} {settings : Settings} {arguments config : Source} {setting : Setting}

theorem of_given (hgiven : given surroundings arguments = .ok settings) :
    (Definitions.ofVariables surroundings.environment).source = .ok surroundings.fromVariables ∧
      ∃ home, ofSource home (Value.overlayEntries surroundings.fromAssignments arguments) = .ok settings := by
  obtain ⟨source, hsource, hrest⟩ := bind_eq_ok_iff.1 hgiven
  obtain ⟨home, -, hsettings⟩ := bind_eq_ok_iff.1 hrest
  obtain ⟨environment, henvironment, hrest⟩ := bind_eq_ok_iff.1 hsource
  obtain ⟨assignments, hassignments, hmade⟩ := bind_eq_ok_iff.1 hrest
  have hvariables : surroundings.fromVariables = environment := by
    rw [Surroundings.fromVariables, henvironment]
    rfl
  have hassigned : surroundings.fromAssignments = Value.overlayEntries assignments environment := by
    rw [Surroundings.fromAssignments, hvariables, hassignments]
    rfl
  refine ⟨hvariables ▸ henvironment, home, ?_⟩
  rw [hassigned, Except.ok.inj hmade]
  exact mapError_eq_ok_iff.1 hsettings

/-- Without a configuration file, what comes first counts. -/
theorem first_of_given (hnames : (Value.names arguments).Nodup)
    (hgiven : given surroundings arguments = .ok settings) (setting : Setting) :
    setting.first (setting.offers surroundings arguments []) = .ok (setting.of settings) := by
  obtain ⟨-, home, hsettings⟩ := of_given hgiven
  have hvalue := of_ofSource hsettings setting
  have hsection : ∀ value, Value.lookup? "logging" arguments = some value →
      ∃ entries, value = .map entries := by
    intro value hvalue
    obtain ⟨base, hmerged⟩ := Value.lookup?_overlayEntries_of_some surroundings.fromAssignments hvalue
    rcases section_of_ofSource hsettings with hnone | ⟨entries, hsome⟩
    · rw [hnone] at hmerged
      cases hmerged
    · rw [hsome] at hmerged
      cases value with
      | map entries => exact ⟨entries, rfl⟩
      | _ => simp [Value.overlay] at hmerged
  rw [Setting.offers]
  cases hargument : setting.given? arguments with
  | some argument =>
    obtain ⟨base, hmerged⟩ := Setting.given?_overlayEntries_of_some surroundings.fromAssignments hargument
    rw [hmerged] at hvalue
    rw [Option.map_some, Setting.first_some]
    exact Setting.check_of_overlay hvalue
  | none =>
    rw [Setting.given?_overlayEntries_of_none _ hnames hsection hargument] at hvalue
    rw [Option.map_none, Setting.first_none]
    cases hvariable : setting.given? surroundings.fromVariables with
    | some text =>
      obtain ⟨base, hmerged⟩ := Setting.given?_overlayEntries_of_some
        ((Definitions.ofAssignments surroundings.assignments).source.toOption.getD []) hvariable
      rw [Surroundings.fromAssignments, hmerged] at hvalue
      rw [Option.map_some, Setting.first_some]
      exact Setting.check_of_overlay hvalue
    | none =>
      rw [Option.map_none, Setting.first_none, Setting.configured?_nil, Option.map_none, Setting.first_none,
        Setting.first_singleton]
      exact hvalue

/-- Whether a configuration file is blocked for a setting: an argument has its name at the top, or a
    variable leads there. -/
def IsBlocked (surroundings : Surroundings) (arguments : Source) (setting : Setting) : Prop :=
  setting.key ∈ Value.names arguments ∨
    surroundings.environment.LeadTo (Definitions.mark ++ setting.key)

theorem mem_blockedBy_iff :
    setting.key ∈ blockedBy surroundings arguments ↔ IsBlocked surroundings arguments setting := by
  rw [blockedBy, List.mem_append, Variables.mem_blocked_iff, IsBlocked]

/-- A source that gives a setting blocks it. -/
theorem mem_names_of_given? {given : Value} (hgiven : setting.given? arguments = some given) :
    setting.key ∈ Value.names arguments := by
  cases setting with
  | log setting =>
    obtain ⟨entries, hsection, -⟩ := Setting.lookup?_logging_of_given? hgiven
    exact Value.mem_names_of_lookup? hsection
  | _ => exact Value.mem_names_of_lookup? hgiven

/-- Whether a configuration file is passed over: it is blocked for a setting that neither an argument nor a
    variable gives, because one of them gives something else under the same name at the top. -/
def PassedOver (surroundings : Surroundings) (arguments : Source) (setting : Setting) : Prop :=
  setting.given? arguments = none ∧ setting.given? surroundings.fromVariables = none ∧
    IsBlocked surroundings arguments setting

/-- Loading takes what comes first, but of a configuration file only what is not passed over. -/
theorem first_of_load (hnames : (Value.names arguments).Nodup) {configFile : Option Path}
    {loaded : Reported Settings} (hload : load surroundings arguments configFile = .ok loaded)
    (setting : Setting) :
    (¬ PassedOver surroundings arguments setting →
      setting.first (setting.offers surroundings arguments
        (surroundings.configAt loaded.value.configFile)) = .ok (setting.of loaded.value)) ∧
    (PassedOver surroundings arguments setting →
      setting.first (setting.offers surroundings arguments []) = .ok (setting.of loaded.value)) := by
  obtain ⟨settings, hgiven, hloaded⟩ := of_load hload
  have hfirst := first_of_given hnames hgiven setting
  obtain ⟨hsource, -⟩ := of_given hgiven
  rw [hloaded setting]
  by_cases hblocked : setting.key ∈ blockedBy surroundings arguments
  · rw [if_pos (by simpa using hblocked)]
    refine ⟨fun hkept => ?_, fun _ => hfirst⟩
    -- An argument or a variable comes before the configuration file.
    rw [← hfirst, Setting.offers, Setting.offers]
    cases hargument : setting.given? arguments with
    | some argument => rw [Option.map_some, Setting.first_some, Setting.first_some]
    | none =>
      cases hvariable : setting.given? surroundings.fromVariables with
      | some text => rfl
      | none => exact absurd ⟨hargument, hvariable, mem_blockedBy_iff.1 hblocked⟩ hkept
  · have hargument : setting.given? arguments = none := by
      by_contra hsome
      obtain ⟨argument, hargument⟩ := Option.ne_none_iff_exists'.1 hsome
      exact hblocked (List.mem_append_left _ (mem_names_of_given? hargument))
    have hvariable : setting.given? surroundings.fromVariables = none := by
      by_contra hsome
      exact hblocked (List.mem_append_right _ (Variables.mem_blocked_of_given? hsource hsome))
    rw [if_neg (by simpa using hblocked)]
    refine ⟨fun _ => ?_, fun hpassed => absurd (mem_blockedBy_iff.2 hpassed.2.2) hblocked⟩
    rw [Setting.offers, hargument, hvariable, Option.map_none, Setting.first_none, Setting.first_none]
      at hfirst ⊢
    cases hconfigured : setting.configured? (surroundings.configAt loaded.value.configFile) with
    | some value => rfl
    | none =>
      rw [setting.configured?_nil] at hfirst
      exact hfirst

/-- The sections of a configuration are maps. -/
def HasSections (config : Source) : Prop :=
  ∀ name ∈ ["expansion", "logging"], ∀ value, Value.lookup? name config = some value →
    ∃ entries, value = .map entries

theorem hasSections_of_entries
    (hentries : ∀ name ∈ ["expansion", "logging"],
      (Value.lookup? name config).all (fun value => !value.entries.isEmpty) = true) :
    HasSections config := by
  intro name hname value hvalue
  have hmany := hentries name hname
  rw [hvalue, Option.all_some] at hmany
  exact ⟨value.entries, Value.eq_map_of_entries (by simpa using hmany)⟩

theorem withConfig_succeeds (settings : Settings) (blocked : List String) (hsections : HasSections config) :
    ∃ final, settings.withConfig blocked config = .ok final := by
  obtain ⟨entries, hentries⟩ : ∃ entries, expansionEntries config = .ok entries := by
    unfold expansionEntries
    cases hexpansion : Value.lookup? "expansion" config with
    | none => exact ⟨_, rfl⟩
    | some value =>
      obtain ⟨entries, rfl⟩ := hsections "expansion" (by simp) value hexpansion
      exact ⟨entries, rfl⟩
  unfold withConfig
  rw [hentries]
  cases hlogging : Value.lookup? "logging" config with
  | none => exact ⟨_, rfl⟩
  | some value =>
    obtain ⟨section_, rfl⟩ := hsections "logging" (by simp) value hlogging
    by_cases hblocked : blocked.contains "logging"
    · simp only [hblocked, if_true]
      exact ⟨_, rfl⟩
    · obtain ⟨log, hlog⟩ : ∃ log, configuredLog (.map section_) settings.log = .ok log := by
        unfold configuredLog
        split <;> exact ⟨_, rfl⟩
      simp only [hblocked, hlog]
      exact ⟨_, rfl⟩

/-- A file is read as a configuration of these entries. -/
def Reads (surroundings : Surroundings) (path : Path) (config : Source) : Prop :=
  ∃ text, surroundings.text? path = .ok (some text) ∧ Yaml.read text = .ok (.map config)

theorem configAt_of_reads {path : Path} (hreads : Reads surroundings path config) :
    surroundings.configAt (some path) = config := by
  obtain ⟨text, htext, hread⟩ := hreads
  exact configAt_of_read htext hread

/-- A configuration that has entries was read from its file. -/
theorem reads_configAt {path : Path} (hentries : surroundings.configAt (some path) ≠ []) :
    Reads surroundings path (surroundings.configAt (some path)) := by
  unfold Surroundings.configAt at hentries ⊢
  dsimp only at hentries ⊢
  split at hentries
  · next text htext =>
    split at hentries
    · next value hread =>
      exact ⟨text, htext, hread.trans (congrArg Except.ok (Value.eq_map_of_entries hentries))⟩
    · exact absurd rfl hentries
  · exact absurd rfl hentries

/-- Settings that all other sources give can be loaded with a configuration of sections. -/
theorem load_of_reads (path : Path) (hreads : Reads surroundings path config)
    (hsections : HasSections config) (hgiven : given surroundings arguments = .ok settings) :
    ∃ loaded, load surroundings arguments (some path) = .ok loaded ∧
      loaded.value.configFile = some path := by
  obtain ⟨text, htext, hread⟩ := hreads
  obtain ⟨source, hsource, hrest⟩ := bind_eq_ok_iff.1 hgiven
  obtain ⟨home, hhome, hsettings⟩ := bind_eq_ok_iff.1 hrest
  obtain ⟨final, hfinal⟩ := withConfig_succeeds settings (blockedBy surroundings arguments) hsections
  have hmap : (if (Value.map config).isTruthy then Value.map config else .map []) = .map config := by
    cases config <;> rfl
  refine ⟨⟨{ final with configFile := some path }, [] ++ [.configLoaded path.text]⟩, ?_, rfl⟩
  rw [load]
  refine bind_eq_ok_iff.2 ⟨source, hsource, bind_eq_ok_iff.2 ⟨home, hhome, ?_⟩⟩
  refine bind_eq_ok_iff.2 ⟨settings, hsettings, bind_eq_ok_iff.2 ⟨⟨some path, []⟩, rfl, ?_⟩⟩
  refine bind_eq_ok_iff.2 ⟨⟨{ final with configFile := some path }, [.configLoaded path.text]⟩, ?_, rfl⟩
  refine bind_eq_ok_iff.2 ⟨some text, htext, ?_⟩
  simp only [Option.map_some, Option.getD_some, hread, hmap]
  exact bind_eq_ok_iff.2 ⟨final, hfinal, rfl⟩

/-- Every setting is decided on its own by the first source that gives it, except that a configuration file
    may be passed over for it. With a configuration of sections settings can be loaded wherever the other
    sources are accepted. A variable gives the setting that has its name, in letters of either case, and
    two underscores lead to a setting of the logs. -/
theorem load_takes_first (surroundings : Surroundings) (arguments : Source)
    (hnames : (Value.names arguments).Nodup) :
    (∀ configFile loaded, load surroundings arguments configFile = .ok loaded → ∀ setting : Setting,
      (¬ PassedOver surroundings arguments setting →
        setting.first (setting.offers surroundings arguments
          (surroundings.configAt loaded.value.configFile)) = .ok (setting.of loaded.value)) ∧
      (PassedOver surroundings arguments setting →
        setting.first (setting.offers surroundings arguments []) = .ok (setting.of loaded.value))) ∧
    (∀ path config settings, Reads surroundings path config → HasSections config →
      given surroundings arguments = .ok settings →
      ∃ loaded, load surroundings arguments (some path) = .ok loaded ∧
        surroundings.configAt loaded.value.configFile = config) ∧
    (∀ settings, given surroundings arguments = .ok settings → ∀ setting : Setting,
      (setting.key = "logging" →
        surroundings.environment.latest? (Definitions.mark ++ "logging") = none) →
      (∀ text, surroundings.environment.latest? setting.variableName = some text →
        setting.given? surroundings.fromVariables = some (.text text)) ∧
      (¬ surroundings.environment.LeadTo setting.variableName →
        setting.given? surroundings.fromVariables = none)) := by
  refine ⟨fun configFile loaded hload setting => first_of_load hnames hload setting, ?_, ?_⟩
  · intro path config settings hreads hsections hgiven
    obtain ⟨loaded, hload, hfile⟩ := load_of_reads path hreads hsections hgiven
    exact ⟨loaded, hload, hfile ▸ configAt_of_reads hreads⟩
  · intro settings hgiven setting hwhole
    obtain ⟨hsource, -⟩ := of_given hgiven
    exact ⟨fun text hlatest => Variables.given?_of_latest? hsource hwhole hlatest,
      Variables.given?_eq_none hsource hwhole⟩

/-- A variable for the level of the console, and a configuration file that sets the level of log files. -/
def consoleDebug : Surroundings where
  environment := [("RRULEZONE_LOGGING__CONSOLE_LEVEL", "DEBUG")]
  files :=
    { current := ⟨"/", ["work"]⟩
      files := [(["work", "config.yaml"], "logging:\n  file_level: INFO\n")] }

theorem passedOver_consoleDebug : PassedOver consoleDebug [] (.log .fileLevel) := by
  refine ⟨rfl, Option.isNone_iff_eq_none.1 (by decide +kernel), Or.inr ?_⟩
  refine ⟨("RRULEZONE_LOGGING__CONSOLE_LEVEL", "DEBUG"), by simp [consoleDebug], Or.inr ?_⟩
  decide +kernel

/-- The file's level of log files is passed over, since the variable leads to the section of the logs. -/
theorem load_consoleDebug :
    (Value.names ([] : Source)).Nodup ∧ ∃ loaded,
      load consoleDebug [] (some (.ofText "config.yaml")) = .ok loaded ∧
      Setting.configured? (consoleDebug.configAt loaded.value.configFile) (.log .fileLevel) =
        some (.text "INFO") ∧
      (Setting.log .consoleLevel).of loaded.value = .text "DEBUG" ∧
      (Setting.log .fileLevel).of loaded.value = .text "DEBUG" := by
  obtain ⟨hfirst, hload, hvariables⟩ := load_takes_first consoleDebug [] List.nodup_nil
  obtain ⟨settings, hgiven⟩ : ∃ settings, given consoleDebug [] = .ok settings :=
    toOption_isSome_iff.1 (by decide +kernel)
  obtain ⟨loaded, hloaded, hconfig⟩ :=
    hload (.ofText "config.yaml") _ settings (reads_configAt (List.isEmpty_eq_false_iff.1 (by decide +kernel)))
      (hasSections_of_entries (by decide +kernel)) hgiven
  refine ⟨List.nodup_nil, loaded, hloaded, ?_, ?_, ?_⟩
  · rw [hconfig]
    obtain ⟨value, hvalue, hinfo⟩ := (Option.any_eq_true _ _).1 (show
      (Setting.configured? (consoleDebug.configAt (some (.ofText "config.yaml"))) (.log .fileLevel)).any
        (·.isText "INFO") = true by decide +kernel)
    rw [hvalue, Value.isText_iff.1 hinfo]
  · have hvariable := (hvariables settings hgiven (.log .consoleLevel)
      fun _ => by decide +kernel).1 "DEBUG" (by decide +kernel)
    have hkept : ¬ PassedOver consoleDebug [] (.log .consoleLevel) := by
      rintro ⟨-, hnone, -⟩
      rw [hvariable] at hnone
      cases hnone
    have hvalue := (hfirst _ _ hloaded (.log .consoleLevel)).1 hkept
    rw [Setting.offers, hvariable] at hvalue
    exact (Except.ok.inj hvalue).symm
  · have hvalue := (hfirst _ _ hloaded (.log .fileLevel)).2 passedOver_consoleDebug
    have hassignments : (Setting.log .fileLevel).given? consoleDebug.fromAssignments = none :=
      Option.isNone_iff_eq_none.1 (by decide +kernel)
    rw [Setting.offers, passedOver_consoleDebug.2.1, hassignments] at hvalue
    exact (Except.ok.inj hvalue).symm

end Settings

end Recurrence
