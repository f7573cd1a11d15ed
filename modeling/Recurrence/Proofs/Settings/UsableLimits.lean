import Recurrence.Proofs.Settings.Precedence

namespace Recurrence

/-- Whether a value is a positive integer; a truth value counts as 0 or 1. -/
def Value.isPositive : Value → Bool
  | .int number => decide (1 ≤ number)
  | .bool value => value
  | _ => false

/-- The limits among the settings. -/
def Setting.limits : List Setting := [.occurrenceLimit, .stepCap]

/-- A positive value counts like a positive integer in every expansion. -/
theorem Threshold.isReached_of_isPositive {value : Value} (hpositive : value.isPositive = true) :
    ∃ number : Int, 1 ≤ number ∧
      ∀ count, (Threshold.ofValue value).isReached count = .ok (decide (number ≤ count)) := by
  cases value with
  | int number => exact ⟨number, of_decide_eq_true hpositive, fun _ => rfl⟩
  | bool value =>
    obtain rfl : value = true := hpositive
    refine ⟨1, Int.le_refl 1, fun count => ?_⟩
    rw [ofValue, isReached, Bool.not_true, Bool.false_or]
    exact congrArg Except.ok (decide_eq_decide.2 (by omega))
  | _ => cases hpositive

namespace Settings

variable {surroundings : Surroundings} {settings : Settings} {arguments : Source} {setting : Setting}

theorem isPositive_of_check {given value : Value} (hlimit : setting ∈ Setting.limits)
    (hchecked : setting.check given = .ok value) : value.isPositive = true := by
  have hpositive : ∃ number : { number : Int // 1 ≤ number },
      given.positive = .ok number ∧ .int number.val = value := by
    simp only [Setting.limits, List.mem_cons, List.not_mem_nil, or_false] at hlimit
    rcases hlimit with rfl | rfl <;> exact map_eq_ok_iff.1 hchecked
  obtain ⟨number, -, rfl⟩ := hpositive
  exact decide_eq_true number.property

theorem isPositive_default (hlimit : setting ∈ Setting.limits) : setting.default.isPositive = true := by
  simp only [Setting.limits, List.mem_cons, List.not_mem_nil, or_false] at hlimit
  rcases hlimit with rfl | rfl <;> rfl

/-- The sources that are checked give limits that are usable. -/
theorem isPositive_of_given (hlimit : setting ∈ Setting.limits)
    (hgiven : given surroundings arguments = .ok settings) :
    (setting.of settings).isPositive = true := by
  obtain ⟨-, home, hsettings⟩ := of_given hgiven
  have hvalue := of_ofSource hsettings setting
  cases hsource : setting.given? (Value.overlayEntries surroundings.fromAssignments arguments) with
  | some value =>
    rw [hsource] at hvalue
    exact isPositive_of_check hlimit hvalue
  | none =>
    rw [hsource] at hvalue
    rw [← Except.ok.inj hvalue]
    exact isPositive_default hlimit

/-- Whether the configuration file of loaded settings gives a setting a value, and is not blocked for it. -/
def TakesFromFile (surroundings : Surroundings) (arguments : Source) (loaded : Settings)
    (setting : Setting) (value : Value) : Prop :=
  setting.configured? (surroundings.configAt loaded.configFile) = some value ∧
    ¬ IsBlocked surroundings arguments setting

/-- However settings are loaded, each limit is a positive integer, with which every expansion can count,
    unless the configuration file gives it and puts something else in its place. -/
theorem limits_positive_iff {configFile : Option Path} {loaded : Reported Settings}
    (hload : load surroundings arguments configFile = .ok loaded) :
    ∀ setting ∈ Setting.limits,
      ((setting.of loaded.value).isPositive = true ↔
        ∀ value, TakesFromFile surroundings arguments loaded.value setting value →
          value.isPositive = true) ∧
      ((setting.of loaded.value).isPositive = true →
        ∃ number : Int, 1 ≤ number ∧ ∀ count,
          (Threshold.ofValue (setting.of loaded.value)).isReached count =
            .ok (decide (number ≤ count))) := by
  intro setting hlimit
  refine ⟨?_, Threshold.isReached_of_isPositive⟩
  obtain ⟨settings, hgiven, hloaded⟩ := of_load hload
  have hpositive := isPositive_of_given hlimit hgiven
  rw [hloaded setting]
  simp only [TakesFromFile, ← mem_blockedBy_iff]
  by_cases hblocked : setting.key ∈ blockedBy surroundings arguments
  · rw [if_pos (by simpa using hblocked)]
    exact iff_of_true hpositive fun value hfile => absurd hblocked hfile.2
  · rw [if_neg (by simpa using hblocked)]
    cases setting.configured? (surroundings.configAt loaded.value.configFile) with
    | none => exact iff_of_true hpositive fun value hfile => absurd hfile.1 nofun
    | some value => simp [hblocked]

/-- A configuration file with a limit of zero. -/
def zeroLimit : Surroundings where
  files :=
    { current := ⟨"/", ["work"]⟩
      files := [(["work", "config.yaml"], "expansion:\n  default_occurrence_limit: 0\n")] }

/-- The limit of zero is accepted, and the cap on steps is usable. -/
theorem load_zeroLimit : ∃ loaded,
    load zeroLimit [] (some (.ofText "config.yaml")) = .ok loaded ∧
      (Setting.occurrenceLimit.of loaded.value).isPositive = false ∧
      (Setting.stepCap.of loaded.value).isPositive = true := by
  obtain ⟨settings, hgiven⟩ : ∃ settings, given zeroLimit [] = .ok settings :=
    toOption_isSome_iff.1 (by decide +kernel)
  obtain ⟨loaded, hload, hfile⟩ :=
    load_of_reads (.ofText "config.yaml")
      (reads_configAt (List.isEmpty_eq_false_iff.1 (by decide +kernel)))
      (hasSections_of_entries (by decide +kernel)) hgiven
  have hlimits := limits_positive_iff hload
  refine ⟨loaded, hload, ?_, ?_⟩
  · obtain ⟨value, hvalue, hrefused⟩ := (Option.any_eq_true _ _).1 (show
      (Setting.configured? (zeroLimit.configAt (some (.ofText "config.yaml"))) .occurrenceLimit).any
        (!·.isPositive) = true by decide +kernel)
    have htakes : TakesFromFile zeroLimit [] loaded.value .occurrenceLimit value :=
      ⟨hfile ▸ hvalue, by simp [IsBlocked, Value.names, Variables.LeadTo, zeroLimit]⟩
    rw [← Bool.not_eq_true, (hlimits .occurrenceLimit (by decide)).1]
    intro hpositive
    rw [hpositive value htakes] at hrefused
    cases hrefused
  · rw [(hlimits .stepCap (by decide)).1]
    rintro value ⟨hvalue, -⟩
    have hnone : Setting.configured? (zeroLimit.configAt (some (.ofText "config.yaml"))) .stepCap = none :=
      Option.isNone_iff_eq_none.1 (by decide +kernel)
    rw [hfile, hnone] at hvalue
    cases hvalue

end Settings

end Recurrence
