import Recurrence.Proofs.Settings.Definitions

namespace Recurrence

/-- The name of the variable that gives a setting, in lower case. -/
def Setting.variableName : Setting → String
  | .log setting => Definitions.logVariable setting
  | setting => Definitions.mark ++ setting.key

namespace Variables

open Definitions (lower mark)

/-- The value of the last variable that has a name in whatever case. -/
def latest? (environment : Variables) (name : String) : Option String :=
  (environment.reverse.find? (lower ·.1 == name)).map (·.2)

/-- Whether a variable has a name, in whatever case, or one that leads below it. -/
def LeadTo (environment : Variables) (name : String) : Prop :=
  ∃ entry ∈ environment, Definitions.LeadsTo (lower entry.1) name

variable {environment : Variables} {source : Source} {setting : Setting} {name text : String}

theorem latest?_eq_none (hnone : ¬ environment.LeadTo name) : environment.latest? name = none := by
  rw [latest?, Option.map_eq_none_iff, List.find?_eq_none]
  intro entry hentry hname
  exact hnone ⟨entry, List.mem_reverse.1 hentry, Or.inl (eq_of_beq hname)⟩

theorem find?_ofVariables (environment : Variables) (key : String) :
    (Definitions.ofVariables environment).find? (·.1 == key) =
      (environment.latest? key).map fun text => (key, some text) := by
  rw [Definitions.ofVariables, Definitions.find?_ofAssignments, ← List.map_reverse, List.find?_map,
    latest?]
  simp [Function.comp_def]

theorem setting?_ofVariables (environment : Variables) (name : String) :
    (Definitions.ofVariables environment).setting? name = environment.latest? (mark ++ name) := by
  rw [Definitions.setting?, find?_ofVariables]
  cases environment.latest? (mark ++ name) <;> rfl

theorem nodup_ofVariables (environment : Variables) :
    ((Definitions.ofVariables environment).map (·.1)).Nodup :=
  (Definitions.nodup_ofAssignments _).1

theorem exists_of_mem_ofVariables {definition : String × Option String}
    (hdefinition : definition ∈ Definitions.ofVariables environment) :
    ∃ entry ∈ environment, definition.1 = lower entry.1 := by
  obtain ⟨assignment, hassignment, hname⟩ :=
    (Definitions.nodup_ofAssignments _).2 definition.1 (List.mem_map_of_mem hdefinition)
  obtain ⟨entry, hentry, rfl⟩ := List.mem_map.1 hassignment
  exact ⟨entry, hentry, hname⟩

theorem lookup?_logging_ofVariables {setting : LogSetting}
    (hsource : (Definitions.ofVariables environment).source = .ok source)
    (hwhole : environment.latest? (mark ++ "logging") = none) :
    (Setting.log setting).given? source =
      Value.lookup? setting.name (Definitions.ofVariables environment).logEntries := by
  have hplain := (setting?_ofVariables environment "logging").trans hwhole
  have hlower : ∀ definition ∈ Definitions.ofVariables environment,
      lower definition.1 = definition.1 := by
    intro definition hdefinition
    obtain ⟨entry, -, hname⟩ := exists_of_mem_ofVariables hdefinition
    rw [hname, Definitions.lower_lower]
  rw [Setting.given?, Definitions.sectionOf_source hsource hplain,
    Definitions.lookup?_renamed (Definitions.hasLowerKeys_logEntries hlower)]

theorem given?_of_ne_logging (hsource : (Definitions.ofVariables environment).source = .ok source)
    (hsetting : setting.key ≠ "logging") :
    setting.given? source = (environment.latest? setting.variableName).map .text := by
  have hfound : ∀ {name}, name ∈ Definitions.textSettings →
      Value.lookup? name source = (environment.latest? (mark ++ name)).map .text := by
    intro name hname
    rw [Definitions.lookup?_source hsource hname, setting?_ofVariables]
  cases setting with
  | log setting => exact absurd rfl hsetting
  | _ => exact hfound (by decide)

/-- A setting is what the last variable of its name gives, unless a variable gives the logs as a whole. -/
theorem given?_of_latest? (hsource : (Definitions.ofVariables environment).source = .ok source)
    (hwhole : setting.key = "logging" → environment.latest? (mark ++ "logging") = none)
    (hlatest : environment.latest? setting.variableName = some text) :
    setting.given? source = some (.text text) := by
  cases setting with
  | log setting =>
    rw [lookup?_logging_ofVariables hsource (hwhole rfl)]
    have hlast := (find?_reverse_of_nodup (nodup_ofVariables environment)
      (Definitions.logVariable setting)).trans
        (find?_ofVariables environment (Definitions.logVariable setting))
    rw [← Setting.variableName, hlatest] at hlast
    exact Definitions.lookup?_logEntries hlast
  | _ => rw [given?_of_ne_logging hsource (by decide), hlatest]; rfl

/-- A setting is not given where no variable leads to its name. -/
theorem given?_eq_none (hsource : (Definitions.ofVariables environment).source = .ok source)
    (hwhole : setting.key = "logging" → environment.latest? (mark ++ "logging") = none)
    (hnone : ¬ environment.LeadTo setting.variableName) : setting.given? source = none := by
  cases setting with
  | log setting =>
    rw [lookup?_logging_ofVariables hsource (hwhole rfl)]
    apply Definitions.lookup?_logEntries_eq_none
    intro definition hdefinition hleads
    obtain ⟨entry, hentry, hname⟩ := exists_of_mem_ofVariables hdefinition
    rw [hname] at hleads
    exact hnone ⟨entry, hentry, hleads⟩
  | _ => rw [given?_of_ne_logging hsource (by decide), latest?_eq_none hnone]; rfl

theorem pathOf_key (setting : Setting) (rest : List Char) :
    Definitions.pathOf setting.key.toList = [setting.key.toList] ∧
      Definitions.pathOf (setting.key.toList ++ '_' :: '_' :: rest) =
        setting.key.toList :: Definitions.pathOf rest := by
  cases setting <;> simp [Setting.key, Definitions.pathOf]

/-- The variables that block a setting are those that lead to its name at the top. -/
theorem mem_blocked_iff : setting.key ∈ environment.blocked ↔ environment.LeadTo (mark ++ setting.key) := by
  rw [blocked, List.mem_filterMap]
  refine exists_congr fun entry => and_congr_right fun _ => ?_
  rw [Option.map_eq_some_iff]
  constructor
  · rintro ⟨rest, hrest, hkey⟩
    rw [Text.after?_eq_some_iff] at hrest
    have hname : lower entry.1 = mark ++ String.ofList rest := by
      rw [← String.toList_inj, hrest]
      simp
    cases hparts : Definitions.pathOf rest with
    | nil => exact absurd hparts (Definitions.pathOf_ne_nil rest)
    | cons part more =>
      rw [hparts, List.headD_cons] at hkey
      rw [← hkey, hname]
      exact Definitions.leadsTo_of_pathOf mark hparts
  · rintro (hname | ⟨rest, hname⟩)
    · refine ⟨setting.key.toList, ?_, ?_⟩
      · rw [Text.after?_eq_some_iff, hname, String.toList_append]
      · rw [(pathOf_key setting []).1, List.headD_cons, String.ofList_toList]
    · refine ⟨setting.key.toList ++ '_' :: '_' :: rest, ?_, ?_⟩
      · rw [Text.after?_eq_some_iff, ← hname]
        simp
      · rw [(pathOf_key setting rest).2, List.headD_cons, String.ofList_toList]

/-- What a variable gives it also blocks. -/
theorem mem_blocked_of_given? (hsource : (Definitions.ofVariables environment).source = .ok source)
    (hgiven : setting.given? source ≠ none) : setting.key ∈ environment.blocked := by
  rw [mem_blocked_iff]
  by_contra hnone
  apply hgiven
  apply given?_eq_none hsource
  · intro hkey
    rw [hkey] at hnone
    exact latest?_eq_none hnone
  · rintro ⟨entry, hentry, hleads⟩
    refine hnone ⟨entry, hentry, ?_⟩
    cases setting with
    | log setting =>
      right
      have hstart : (mark ++ "logging" ++ "__").toList <+: (Definitions.logVariable setting).toList :=
        ⟨setting.name.toList, by simp [Definitions.logVariable]⟩
      rcases hleads with hname | hname
      · rw [hname]
        exact hstart
      · rw [Setting.variableName, String.toList_append] at hname
        exact hstart.trans ((List.prefix_append _ _).trans hname)
    | _ => exact hleads

end Variables

end Recurrence
