import Recurrence.Value.Merge

namespace Recurrence.Value

theorem isText_iff {value : Value} {name : String} : value.isText name = true ↔ value = .text name := by
  cases value with
  | text text => simp [isText]
  | _ => simp [isText]

theorem isText_eq_false_iff {value : Value} {name : String} :
    value.isText name = false ↔ value ≠ .text name := by
  rw [← Bool.not_eq_true, isText_iff]

/-- The entries of a map; what is no map has none. -/
def entries : Value → List (Value × Value)
  | .map entries => entries
  | _ => []

theorem entries_of_not_isTruthy {value : Value} (hvalue : value.isTruthy = false) : value.entries = [] := by
  cases value with
  | map found => simpa [isTruthy, entries] using hvalue
  | _ => rfl

theorem eq_map_of_entries {value : Value} (hentries : value.entries ≠ []) : value = .map value.entries := by
  cases value with
  | map found => rfl
  | _ => exact absurd rfl hentries

variable {name other : String} {value : Value} {entries old new : List (Value × Value)}

theorem lookup?_append (name : String) (old new : List (Value × Value)) :
    lookup? name (old ++ new) = (lookup? name new).or (lookup? name old) := by
  simp only [lookup?, List.reverse_append, List.find?_append, Option.map_or]

theorem lookup?_singleton (name : String) (entry : Value × Value) :
    lookup? name [entry] = if entry.1.isText name then some entry.2 else none := by
  simp only [lookup?, List.reverse_singleton, List.find?_singleton]
  split <;> rfl

theorem lookup?_cons (name : String) (entry : Value × Value) (entries : List (Value × Value)) :
    lookup? name (entry :: entries) =
      (lookup? name entries).or (if entry.1.isText name then some entry.2 else none) := by
  rw [← List.singleton_append, lookup?_append, lookup?_singleton]

theorem lookup?_eq_none_iff : lookup? name entries = none ↔ ∀ entry ∈ entries, entry.1 ≠ .text name := by
  simp only [lookup?, Option.map_eq_none_iff, List.find?_eq_none, List.mem_reverse, isText_iff]

theorem mem_of_lookup? (hfound : lookup? name entries = some value) : (.text name, value) ∈ entries := by
  obtain ⟨⟨key, found⟩, hentry, rfl⟩ := Option.map_eq_some_iff.1 hfound
  have hmatches : key.isText name = true := by simpa using List.find?_some hentry
  rw [← isText_iff.1 hmatches]
  exact List.mem_reverse.1 (List.mem_of_find?_eq_some hentry)

theorem lookup?_filter_of_ne (hne : other ≠ name) (entries : List (Value × Value)) :
    lookup? other (entries.filter (!·.1.isText name)) = lookup? other entries := by
  induction entries with
  | nil => rfl
  | cons entry entries ih =>
    rw [List.filter_cons, lookup?_cons]
    split
    · rw [lookup?_cons, ih]
    · next hname =>
      rw [ih]
      have hkey : entry.1 = .text name := by simpa [isText_iff] using hname
      have hother : entry.1.isText other = false := by
        rw [hkey, isText_eq_false_iff]
        simpa using hne.symm
      rw [hother]
      simp

theorem lookup?_put_self (name : String) (value : Value) (entries : List (Value × Value)) :
    lookup? name (put name value entries) = some value := by
  induction entries with
  | nil => rw [put, lookup?_singleton, if_pos (isText_iff.2 rfl)]
  | cons entry entries ih =>
    rw [put]
    split
    · next hname =>
      have hrest : lookup? name (entries.filter (!·.1.isText name)) = none := by
        rw [lookup?_eq_none_iff]
        intro entry hentry hkey
        rw [List.mem_filter, hkey, isText_iff.2 rfl] at hentry
        cases hentry.2
      rw [lookup?_cons, hrest, if_pos hname]
      rfl
    · rw [lookup?_cons, ih]
      rfl

theorem lookup?_put_of_ne (hne : other ≠ name) (value : Value) (entries : List (Value × Value)) :
    lookup? other (put name value entries) = lookup? other entries := by
  have hname : ∀ key : Value, key.isText name = true → key.isText other = false := by
    intro key hkey
    rw [isText_iff.1 hkey, isText_eq_false_iff]
    simpa using hne.symm
  induction entries with
  | nil =>
    rw [put, lookup?_singleton, hname _ (isText_iff.2 rfl)]
    rfl
  | cons entry entries ih =>
    rw [put]
    split
    · next hkey =>
      rw [lookup?_cons, lookup?_cons, lookup?_filter_of_ne hne]
      dsimp only
      rw [hname _ hkey]
      rfl
    · rw [lookup?_cons, lookup?_cons, ih]

theorem lookup?_put (name other : String) (value : Value) (entries : List (Value × Value)) :
    lookup? other (put name value entries) = if other = name then some value else lookup? other entries := by
  split
  · next hsame => rw [hsame, lookup?_put_self]
  · next hne => exact lookup?_put_of_ne hne value entries

theorem key_of_mem_put {entry : Value × Value} (hentry : entry ∈ put name value entries) :
    entry.1 = .text name ∨ ∃ earlier ∈ entries, earlier.1 = entry.1 := by
  induction entries with
  | nil =>
    rw [put, List.mem_singleton] at hentry
    rw [hentry]
    exact Or.inl rfl
  | cons first entries ih =>
    rw [put] at hentry
    split at hentry
    · next hkey =>
      rcases List.mem_cons.1 hentry with rfl | hentry
      · exact Or.inl (isText_iff.1 hkey)
      · exact Or.inr ⟨entry, List.mem_cons_of_mem _ ((List.mem_filter.1 hentry).1), rfl⟩
    · rcases List.mem_cons.1 hentry with rfl | hentry
      · exact Or.inr ⟨first, List.mem_cons_self, rfl⟩
      · refine (ih hentry).imp_right ?_
        rintro ⟨earlier, hearlier, hkey⟩
        exact ⟨earlier, List.mem_cons_of_mem _ hearlier, hkey⟩

/-- A path changes what is found under its first name only. -/
theorem lookup?_putAt_of_ne {path : List String} (hne : path.head? ≠ some name) :
    lookup? name (putAt value path entries) = lookup? name entries := by
  cases path with
  | nil => rw [putAt]
  | cons first path =>
    have hname : name ≠ first := by
      rintro rfl
      exact hne rfl
    cases path with
    | nil => rw [putAt, lookup?_put_of_ne hname]
    | cons next path =>
      rw [putAt]
      · split
        · exact lookup?_put_of_ne hname _ _
        · rfl
      · exact nofun

/-- What is no map has nothing below it. -/
theorem lookup?_putAt_below {next : String} {path : List String} {found : Value}
    (hfound : lookup? name entries = some found) (hleaf : ∀ inner, found ≠ .map inner) :
    lookup? name (putAt value (name :: next :: path) entries) = some found := by
  rw [putAt, hfound]
  · split
    · next inner hinner => exact absurd hinner (hleaf inner)
    · exact hfound
  · exact nofun

theorem key_of_mem_putAt {path : List String} {entry : Value × Value}
    (hentry : entry ∈ putAt value path entries) :
    (∃ first, path.head? = some first ∧ entry.1 = .text first) ∨
      ∃ earlier ∈ entries, earlier.1 = entry.1 := by
  cases path with
  | nil =>
    rw [putAt] at hentry
    exact Or.inr ⟨entry, hentry, rfl⟩
  | cons first path =>
    cases path with
    | nil =>
      rw [putAt] at hentry
      exact (key_of_mem_put hentry).imp_left fun hkey => ⟨first, rfl, hkey⟩
    | cons next path =>
      rw [putAt] at hentry
      · split at hentry
        · exact (key_of_mem_put hentry).imp_left fun hkey => ⟨first, rfl, hkey⟩
        · exact Or.inr ⟨entry, hentry, rfl⟩
      · exact nofun

/-- A map put over anything is a map, and what is no map stands as it is. -/
theorem overlay_eq_or (base value : Value) :
    overlay base value = value ∨ ∃ entries, overlay base value = .map entries := by
  cases value with
  | map entries =>
    right
    cases base with
    | map old => exact ⟨overlayEntries old entries, by rw [overlay]⟩
    | _ => exact ⟨entries, by rw [overlay]; exact nofun⟩
  | _ => exact Or.inl (by rw [overlay]; exact nofun)

theorem overlay_of_not_map {base : Value} (hbase : ¬ ∃ entries, base = .map entries) (value : Value) :
    overlay base value = value := by
  cases value with
  | map entries =>
    rw [overlay]
    intro old hold
    exact hbase ⟨old, hold⟩
  | _ => rw [overlay]; exact nofun

theorem lookup?_overlayEntries_of_none (hnone : lookup? name new = none) :
    lookup? name (overlayEntries old new) = lookup? name old := by
  induction new generalizing old with
  | nil => rw [overlayEntries]
  | cons entry new ih =>
    rw [lookup?_cons, Option.or_eq_none_iff] at hnone
    obtain ⟨hrest, hentry⟩ := hnone
    obtain ⟨key, value⟩ := entry
    cases key with
    | text text =>
      have hne : name ≠ text := by
        rintro rfl
        rw [if_pos (isText_iff.2 rfl)] at hentry
        cases hentry
      rw [overlayEntries, ih hrest, lookup?_put_of_ne hne]
    | _ => rw [overlayEntries, ih hrest]; exact nofun

theorem lookup?_overlayEntries_of_some (old : List (Value × Value)) (hfound : lookup? name new = some value) :
    ∃ base, lookup? name (overlayEntries old new) = some (overlay base value) := by
  induction new generalizing old with
  | nil => cases hfound
  | cons entry new ih =>
    obtain ⟨key, first⟩ := entry
    rw [lookup?_cons] at hfound
    cases hrest : lookup? name new with
    | some found =>
      rw [hrest, Option.some_or] at hfound
      cases hfound
      cases key with
      | text text => rw [overlayEntries]; exact ih _ hrest
      | _ => rw [overlayEntries]; exact ih _ hrest; exact nofun
    | none =>
      rw [hrest, Option.none_or] at hfound
      split at hfound
      · next hkey =>
        cases hfound
        obtain rfl := isText_iff.1 hkey
        rw [overlayEntries, lookup?_overlayEntries_of_none hrest, lookup?_put_self]
        exact ⟨_, rfl⟩
      · cases hfound

/-- The names among the keys of entries. -/
def names (entries : List (Value × Value)) : List String :=
  entries.filterMap fun entry =>
    match entry.1 with
    | .text name => some name
    | _ => none

theorem mem_names_of_lookup? (hfound : lookup? name entries = some value) : name ∈ names entries :=
  List.mem_filterMap.2 ⟨_, mem_of_lookup? hfound, rfl⟩

/-- Where a name stands once, what it has is put over what is found under it. -/
theorem lookup?_overlayEntries_of_nodup (hnames : (names new).Nodup) (hfound : lookup? name new = some value) :
    lookup? name (overlayEntries old new) = some (overlay ((lookup? name old).getD .null) value) := by
  induction new generalizing old with
  | nil => cases hfound
  | cons entry new ih =>
    obtain ⟨key, first⟩ := entry
    rw [lookup?_cons] at hfound
    cases hrest : lookup? name new with
    | some found =>
      rw [hrest, Option.some_or] at hfound
      cases hfound
      cases key with
      | text text =>
        obtain ⟨hfirst, hmore⟩ := List.nodup_cons.1 hnames
        have hne : name ≠ text := by
          rintro rfl
          exact hfirst (mem_names_of_lookup? hrest)
        rw [overlayEntries, ih hmore hrest, lookup?_put_of_ne hne]
      | _ => rw [overlayEntries, ih hnames hrest]; exact nofun
    | none =>
      rw [hrest, Option.none_or] at hfound
      split at hfound
      · next hkey =>
        cases hfound
        obtain rfl := isText_iff.1 hkey
        rw [overlayEntries, lookup?_overlayEntries_of_none hrest, lookup?_put_self]
      · cases hfound

end Recurrence.Value
