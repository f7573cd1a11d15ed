import Mathlib.Data.List.Induction
import Mathlib.Data.List.Nodup
import Recurrence.Proofs.Outcome
import Recurrence.Proofs.Settings.Loaded
import Recurrence.Proofs.Text.Search

namespace Recurrence

theorem find?_key_cons {β : Type} (key : String) (entry : String × β) (entries : List (String × β)) :
    (entry :: entries).find? (·.1 == key) =
      if entry.1 = key then some entry else entries.find? (·.1 == key) := by
  split
  · next hkey => exact List.find?_cons_of_pos (by simpa using hkey)
  · next hkey => exact List.find?_cons_of_neg (by simpa using hkey)

theorem Assignments.find?_put (key name : String) (value : Option String) (assignments : Assignments) :
    (put name value assignments).find? (·.1 == key) =
      if name = key then some (name, value) else assignments.find? (·.1 == key) := by
  induction assignments with
  | nil =>
    rw [put, find?_key_cons]
  | cons assignment assignments ih =>
    rw [put]
    by_cases hname : assignment.1 = name
    · rw [if_pos hname, find?_key_cons, find?_key_cons, hname]
      split <;> rfl
    · rw [if_neg hname, find?_key_cons, find?_key_cons, ih]
      by_cases hkey : name = key
      · rw [if_pos hkey, if_neg (hkey ▸ hname), if_pos hkey]
      · rw [if_neg hkey, if_neg hkey]

theorem Assignments.keys_put (name : String) (value : Option String) {assignments : Assignments}
    (hkeys : (assignments.map (·.1)).Nodup) : ((put name value assignments).map (·.1)).Nodup ∧
      ∀ key ∈ (put name value assignments).map (·.1), key = name ∨ key ∈ assignments.map (·.1) := by
  induction assignments with
  | nil => simp [put]
  | cons assignment assignments ih =>
    rw [List.map_cons, List.nodup_cons] at hkeys
    obtain ⟨hfirst, hrest⟩ := hkeys
    obtain ⟨hnodup, hmem⟩ := ih hrest
    rw [put]
    split
    · next hname =>
      rw [List.map_cons, List.nodup_cons, ← hname]
      exact ⟨⟨hfirst, hrest⟩, fun key hkey => Or.inr hkey⟩
    · next hname =>
      rw [List.map_cons, List.nodup_cons, List.map_cons]
      refine ⟨⟨fun hput => ?_, hnodup⟩, fun key hkey => ?_⟩
      · rcases hmem _ hput with hsame | hold
        · exact hname hsame
        · exact hfirst hold
      · rcases List.mem_cons.1 hkey with rfl | hkey
        · exact Or.inr List.mem_cons_self
        · exact (hmem key hkey).imp_right (List.mem_cons_of_mem _)

theorem find?_reverse_of_nodup {β : Type} {entries : List (String × β)}
    (hkeys : (entries.map (·.1)).Nodup) (key : String) :
    entries.reverse.find? (·.1 == key) = entries.find? (·.1 == key) := by
  induction entries with
  | nil => rfl
  | cons entry entries ih =>
    rw [List.map_cons, List.nodup_cons] at hkeys
    obtain ⟨hfirst, hrest⟩ := hkeys
    rw [List.reverse_cons, List.find?_append, ih hrest, find?_key_cons, find?_key_cons]
    split
    · next hkey =>
      have hnone : entries.find? (·.1 == key) = none := by
        rw [List.find?_eq_none]
        intro other hother hsame
        exact hfirst (List.mem_map.2 ⟨other, hother, (eq_of_beq hsame).trans hkey.symm⟩)
      rw [hnone, Option.none_or]
    · rw [List.find?_nil, Option.or_none]

namespace Definitions

/-- The latest of several assignments to names that are alike counts. -/
theorem find?_ofAssignments (given : Assignments) (key : String) :
    (ofAssignments given).find? (·.1 == key) =
      (given.reverse.find? (lower ·.1 == key)).map fun entry => (key, entry.2) := by
  induction given using List.reverseRecOn with
  | nil => rfl
  | append_singleton given last ih =>
    have hfold : ofAssignments (given ++ [last]) =
        Assignments.put (lower last.1) last.2 (ofAssignments given) := by
      simp [ofAssignments]
    rw [hfold, Assignments.find?_put, ih, List.reverse_append, List.reverse_singleton,
      List.singleton_append]
    split
    · next hkey =>
      rw [List.find?_cons_of_pos (by simpa using hkey), Option.map_some, hkey]
    · next hkey =>
      rw [List.find?_cons_of_neg (by simpa using hkey)]

theorem nodup_ofAssignments (given : Assignments) : ((ofAssignments given).map (·.1)).Nodup ∧
    ∀ key ∈ (ofAssignments given).map (·.1), ∃ entry ∈ given, key = lower entry.1 := by
  induction given using List.reverseRecOn with
  | nil => simp [ofAssignments]
  | append_singleton given last ih =>
    obtain ⟨hnodup, hmem⟩ := ih
    have hfold : ofAssignments (given ++ [last]) =
        Assignments.put (lower last.1) last.2 (ofAssignments given) := by
      simp [ofAssignments]
    obtain ⟨hput, hkeys⟩ := Assignments.keys_put (lower last.1) last.2 hnodup
    rw [hfold]
    refine ⟨hput, fun key hkey => ?_⟩
    rcases hkeys key hkey with rfl | hold
    · exact ⟨last, by simp, rfl⟩
    · obtain ⟨entry, hentry, hsame⟩ := hmem key hold
      exact ⟨entry, by simp [hentry], hsame⟩

/-- The path that a name has below the section of the logs is made of what follows the section's name. -/
theorem logPath?_eq_some_iff {name : String} {path : List String} :
    logPath? name = some path ↔ ∃ rest, name = mark ++ "logging__" ++ String.ofList rest ∧
      path = (pathOf rest).map String.ofList := by
  unfold logPath?
  rw [Option.map_eq_some_iff]
  refine exists_congr fun rest => ?_
  rw [Text.after?_eq_some_iff, ← String.toList_inj]
  simp [eq_comm]

theorem pathOf_ne_nil (text : List Char) : pathOf text ≠ [] := by
  fun_induction pathOf text <;> simp_all

/-- The first part of a path is the whole text, or it ends at a pair of underscores. -/
theorem eq_or_of_pathOf {text part : List Char} {more : List (List Char)}
    (hpath : pathOf text = part :: more) :
    text = part ∧ more = [] ∨ ∃ rest, text = part ++ '_' :: '_' :: rest ∧ more = pathOf rest := by
  fun_induction pathOf text generalizing part more with
  | case1 =>
    obtain ⟨rfl, rfl⟩ := List.cons.inj hpath
    exact Or.inl ⟨rfl, rfl⟩
  | case2 rest _ =>
    obtain ⟨rfl, rfl⟩ := List.cons.inj hpath
    exact Or.inr ⟨rest, rfl, rfl⟩
  | case3 c rest _ hnil _ => exact absurd hnil (pathOf_ne_nil rest)
  | case4 c rest _ first more hrest ih =>
    obtain ⟨rfl, rfl⟩ := List.cons.inj hpath
    rcases ih hrest with ⟨rfl, rfl⟩ | ⟨after, rfl, rfl⟩
    · exact Or.inl ⟨rfl, rfl⟩
    · exact Or.inr ⟨after, rfl, rfl⟩

theorem eq_of_pathOf_singleton {text part : List Char} (hpath : pathOf text = [part]) : text = part := by
  rcases eq_or_of_pathOf hpath with ⟨htext, -⟩ | ⟨rest, -, hnil⟩
  · exact htext
  · exact absurd hnil.symm (pathOf_ne_nil rest)

/-- Whether a name is another one, or leads below it. -/
def LeadsTo (name whole : String) : Prop :=
  name = whole ∨ (whole ++ "__").toList <+: name.toList

/-- A path leads below its first part. -/
theorem leadsTo_of_pathOf {text part : List Char} {more : List (List Char)} (start : String)
    (hpath : pathOf text = part :: more) :
    LeadsTo (start ++ String.ofList text) (start ++ String.ofList part) := by
  rcases eq_or_of_pathOf hpath with ⟨rfl, -⟩ | ⟨rest, rfl, -⟩
  · exact Or.inl rfl
  · right
    exact ⟨rest, by simp⟩

theorem mem_of_mem_pathOf {text part : List Char} (hpart : part ∈ pathOf text) : ∀ c ∈ part, c ∈ text := by
  fun_induction pathOf text generalizing part with
  | case1 => simp_all
  | case2 rest ih =>
    rcases List.mem_cons.1 hpart with rfl | hpart
    · exact List.forall_mem_nil _
    · intro c hc
      exact List.mem_cons_of_mem _ (List.mem_cons_of_mem _ (ih hpart c hc))
  | case3 c rest _ hnil _ => exact absurd hnil (pathOf_ne_nil rest)
  | case4 c rest _ first more hrest ih =>
    rw [hrest] at ih
    rcases List.mem_cons.1 hpart with rfl | hpart
    · intro other hother
      rcases List.mem_cons.1 hother with rfl | hother
      · exact List.mem_cons_self
      · exact List.mem_cons_of_mem _ (ih List.mem_cons_self other hother)
    · intro other hother
      exact List.mem_cons_of_mem _ (ih (List.mem_cons_of_mem _ hpart) other hother)

theorem toLower_toLower (c : Char) : c.toLower.toLower = c.toLower := by
  unfold Char.toLower
  split
  · next hcapital =>
    obtain ⟨hlow, hhigh⟩ := hcapital
    refine dif_neg ?_
    rintro ⟨-, hagain⟩
    have hlow : 65 ≤ c.val.toNat := UInt32.le_iff_toNat_le.1 hlow
    have hhigh : c.val.toNat ≤ 90 := UInt32.le_iff_toNat_le.1 hhigh
    have hagain : (c.val + 32).toNat ≤ 90 := UInt32.le_iff_toNat_le.1 hagain
    rw [UInt32.toNat_add] at hagain
    have hthirtyTwo : (32 : UInt32).toNat = 32 := rfl
    omega
  · rfl

theorem lower_lower (name : String) : lower (lower name) = lower name := by
  have hlower : Char.toLower ∘ Char.toLower = Char.toLower := funext toLower_toLower
  simp [lower, hlower]

/-- The name under which a variable gives a setting of the logs. -/
def logVariable (setting : LogSetting) : String := mark ++ "logging__" ++ setting.name

theorem logPath?_logVariable (setting : LogSetting) :
    logPath? (logVariable setting) = some [setting.name] := by
  cases setting <;> rfl

theorem eq_of_logPath?_singleton {name : String} {setting : LogSetting}
    (hpath : logPath? name = some [setting.name]) : name = logVariable setting := by
  obtain ⟨rest, rfl, hrest⟩ := logPath?_eq_some_iff.1 hpath
  obtain ⟨part, hpart, hname⟩ := List.map_eq_singleton_iff.1 hrest.symm
  rw [eq_of_pathOf_singleton hpart, hname, logVariable]

/-- The entries with what one name gives, if it is one below the section of the logs. -/
def withDefinition (entries : Source) (definition : String × Option String) : Source :=
  match logPath? definition.1 with
  | some path => Value.putAt ((definition.2.map Value.text).getD .null) path entries
  | none => entries

theorem logEntries_append (definitions : Definitions) (last : String × Option String) :
    logEntries (definitions ++ [last]) = withDefinition (logEntries definitions) last := by
  rw [logEntries, List.foldl_append]
  rfl

/-- The last of several definitions of a setting gives it, whatever is defined below its name. -/
theorem lookup?_logEntries {definitions : Definitions} {setting : LogSetting} {key : String}
    {value : Option String}
    (hlast : definitions.reverse.find? (·.1 == logVariable setting) = some (key, value)) :
    Value.lookup? setting.name (logEntries definitions) = some ((value.map Value.text).getD .null) := by
  induction definitions using List.reverseRecOn with
  | nil => cases hlast
  | append_singleton definitions last ih =>
    rw [List.reverse_append, List.reverse_singleton, List.singleton_append, find?_key_cons] at hlast
    rw [logEntries_append, withDefinition]
    split at hlast
    · next hkey =>
      cases hlast
      rw [hkey, logPath?_logVariable]
      exact Value.lookup?_put_self _ _ _
    · next hkey =>
      have hfound := ih hlast
      have hleaf : ∀ inner, (value.map Value.text).getD .null ≠ .map inner := by
        cases value <;> exact nofun
      cases hpath : logPath? last.1 with
      | none => exact hfound
      | some path =>
        dsimp only
        by_cases hhead : path.head? = some setting.name
        · -- The path leads below the setting, where nothing can be put.
          obtain ⟨path, rfl⟩ := List.head?_eq_some_iff.1 hhead
          cases path with
          | nil => exact absurd (eq_of_logPath?_singleton hpath) hkey
          | cons next path => exact Value.lookup?_putAt_below hfound hleaf
        · rw [Value.lookup?_putAt_of_ne hhead, hfound]

/-- A setting is not given where no definition leads to its name. -/
theorem lookup?_logEntries_eq_none {definitions : Definitions} {setting : LogSetting}
    (hnone : ∀ definition ∈ definitions, ¬ LeadsTo definition.1 (logVariable setting)) :
    Value.lookup? setting.name (logEntries definitions) = none := by
  induction definitions using List.reverseRecOn with
  | nil => rfl
  | append_singleton definitions last ih =>
    have hlast := hnone last (by simp)
    have hfound := ih fun definition hmem => hnone definition (List.mem_append_left _ hmem)
    rw [logEntries_append, withDefinition]
    cases hpath : logPath? last.1 with
    | none => exact hfound
    | some path =>
      dsimp only
      rw [Value.lookup?_putAt_of_ne _, hfound]
      intro hhead
      obtain ⟨path, rfl⟩ := List.head?_eq_some_iff.1 hhead
      obtain ⟨rest, hname, hrest⟩ := logPath?_eq_some_iff.1 hpath
      obtain ⟨part, more, hparts, hpart, -⟩ := List.map_eq_cons_iff.1 hrest.symm
      apply hlast
      rw [logVariable, ← hpart, hname]
      exact leadsTo_of_pathOf _ hparts

theorem toLower_of_lower {name : String} (hname : lower name = name) : ∀ c ∈ name.toList, c.toLower = c := by
  have hchars := congrArg String.toList hname
  rw [lower, String.toList_ofList] at hchars
  exact List.map_inj_left.1 (hchars.trans (List.map_id' _).symm)

/-- A path below the section of the logs is in lower case where the name is. -/
theorem lower_of_logPath? {name first : String} {path : List String} (hname : lower name = name)
    (hpath : logPath? name = some path) (hfirst : first ∈ path) : lower first = first := by
  obtain ⟨rest, rfl, rfl⟩ := logPath?_eq_some_iff.1 hpath
  obtain ⟨part, hpart, rfl⟩ := List.mem_map.1 hfirst
  have hrest : ∀ c ∈ part, c.toLower = c := by
    intro c hc
    apply toLower_of_lower hname
    simp [mem_of_mem_pathOf hpart c hc]
  rw [lower, String.toList_ofList, List.map_congr_left hrest, List.map_id']

/-- The names in entries are texts in lower case. -/
def HasLowerKeys (entries : Source) : Prop :=
  ∀ entry ∈ entries, ∃ name, entry.1 = .text name ∧ lower name = name

theorem hasLowerKeys_logEntries {definitions : Definitions}
    (hlower : ∀ definition ∈ definitions, lower definition.1 = definition.1) :
    HasLowerKeys (logEntries definitions) := by
  induction definitions using List.reverseRecOn with
  | nil => exact List.forall_mem_nil _
  | append_singleton definitions last ih =>
    have hlast := hlower last (by simp)
    have hkeys := ih fun definition hmem => hlower definition (List.mem_append_left _ hmem)
    rw [logEntries_append, withDefinition]
    cases hpath : logPath? last.1 with
    | none => exact hkeys
    | some path =>
      intro entry hentry
      rcases Value.key_of_mem_putAt hentry with ⟨first, hhead, hkey⟩ | ⟨earlier, hearlier, hkey⟩
      · exact ⟨first, hkey, lower_of_logPath? hlast hpath (List.mem_of_head? hhead)⟩
      · rw [← hkey]
        exact hkeys earlier hearlier

/-- Names in lower case mean the settings that have them. -/
theorem lookup?_renamed {entries : Source} (hkeys : HasLowerKeys entries) (name : String) :
    Value.lookup? name (renamed entries) = Value.lookup? name entries := by
  induction entries using List.reverseRecOn with
  | nil => rfl
  | append_singleton entries last ih =>
    obtain ⟨key, hkey, hlower⟩ := hkeys last (by simp)
    have hrest := ih fun entry hmem => hkeys entry (List.mem_append_left _ hmem)
    have hmeant : ((LogSetting.all.find? fun setting => setting.name == lower key).map LogSetting.name).getD
        key = key := by
      cases hknown : LogSetting.all.find? fun setting => setting.name == lower key with
      | none => rfl
      | some setting =>
        have hsame := List.find?_some hknown
        rw [hlower] at hsame
        exact eq_of_beq hsame
    have hrenamed : renamed (entries ++ [last]) = Value.put key last.2 (renamed entries) := by
      rw [renamed, List.foldl_append, ← renamed]
      simp only [List.foldl_cons, List.foldl_nil, hkey, hmeant]
    rw [hrenamed, Value.lookup?_append, Value.lookup?_singleton, Value.lookup?_put, hrest, hkey]
    by_cases hname : name = key
    · rw [if_pos hname, if_pos (Value.isText_iff.2 (congrArg Value.text hname.symm)), Option.some_or]
    · have hother : (Value.text key).isText name = false := by
        rw [Value.isText_eq_false_iff]
        simpa using Ne.symm hname
      rw [if_neg hname, hother]
      rfl

/-- The settings that are given as text, as a source has them. -/
def plainEntries (definitions : Definitions) : Source :=
  textSettings.filterMap fun name =>
    (definitions.setting? name).map fun text => (Value.text name, Value.text text)

theorem source_eq_ok_iff {definitions : Definitions} {source : Source} :
    definitions.source = .ok source ↔ ∃ log, definitions.logging? = .ok log ∧
      source = definitions.plainEntries ++ (log.map fun value => (Value.text "logging", value)).toList := by
  rw [Definitions.source, bind_eq_ok_iff]
  refine exists_congr fun log => and_congr_right fun _ => ?_
  rw [plainEntries]
  exact ⟨fun h => (Except.ok.inj h).symm, fun h => congrArg Except.ok h.symm⟩

theorem lookup?_filterMap_text {names : List String} (hnames : names.Nodup) (f : String → Option String)
    (name : String) :
    Value.lookup? name
        (names.filterMap fun name => (f name).map fun text => (Value.text name, Value.text text)) =
      if name ∈ names then (f name).map Value.text else none := by
  induction names with
  | nil => rfl
  | cons first names ih =>
    obtain ⟨hfirst, hmore⟩ := List.nodup_cons.1 hnames
    have hrest := ih hmore
    rw [List.filterMap_cons]
    by_cases hname : name = first
    · rw [hname, if_neg hfirst] at hrest
      rw [hname, if_pos List.mem_cons_self]
      cases hvalue : f first with
      | none => exact hrest
      | some text =>
        simp only [Option.map_some]
        rw [Value.lookup?_cons, hrest, if_pos (Value.isText_iff.2 rfl), Option.none_or]
    · have hmem : name ∈ first :: names ↔ name ∈ names := by simp [hname]
      simp only [hmem]
      rw [← hrest]
      cases hvalue : f first with
      | none => rfl
      | some text =>
        have hother : (Value.text first).isText name = false := by
          rw [Value.isText_eq_false_iff]
          simpa using Ne.symm hname
        simp only [Option.map_some]
        rw [Value.lookup?_cons, hother]
        simp

theorem lookup?_source {definitions : Definitions} {source : Source}
    (hsource : definitions.source = .ok source) {name : String} (hname : name ∈ textSettings) :
    Value.lookup? name source = (definitions.setting? name).map Value.text := by
  obtain ⟨log, -, rfl⟩ := source_eq_ok_iff.1 hsource
  have hlog : Value.lookup? name (log.map fun value => (Value.text "logging", value)).toList = none := by
    rw [Value.lookup?_eq_none_iff]
    intro entry hentry hkey
    obtain ⟨value, -, rfl⟩ := Option.map_eq_some_iff.1 (Option.mem_toList.1 hentry)
    have hsame : "logging" = name := by simpa using hkey
    rw [← hsame] at hname
    revert hname
    decide
  rw [Value.lookup?_append, hlog, Option.none_or, plainEntries, lookup?_filterMap_text (by decide),
    if_pos hname]

theorem lookup?_logging_source {definitions : Definitions} {source : Source}
    (hsource : definitions.source = .ok source) :
    definitions.logging? = .ok (Value.lookup? "logging" source) := by
  obtain ⟨log, hlog, rfl⟩ := source_eq_ok_iff.1 hsource
  have hplain : Value.lookup? "logging" definitions.plainEntries = none := by
    rw [plainEntries, lookup?_filterMap_text (by decide)]
    rfl
  rw [hlog, Value.lookup?_append, hplain, Option.or_none]
  cases log with
  | none => rfl
  | some value => rw [Option.map_some, Option.toList_some, Value.lookup?_singleton]; rfl

/-- Where the section is not given as a whole, its settings are those that are given one by one. -/
theorem sectionOf_source {definitions : Definitions} {source : Source}
    (hsource : definitions.source = .ok source) (hplain : definitions.setting? "logging" = none) :
    Setting.sectionOf "logging" source = renamed (logEntries definitions) := by
  have hlog := lookup?_logging_source hsource
  unfold logging? at hlog
  rw [hplain] at hlog
  unfold Setting.sectionOf
  dsimp only at hlog
  split at hlog
  · next hempty =>
    rw [← Except.ok.inj hlog, hempty]
    rfl
  · rw [← Except.ok.inj hlog]
    rfl

end Definitions

end Recurrence
