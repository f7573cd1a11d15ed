namespace Recurrence

variable {α β ε : Type}

theorem toOption_eq_some_iff {outcome : Except ε α} {value : α} :
    outcome.toOption = some value ↔ outcome = .ok value := by
  cases outcome with
  | error error => simp [Except.toOption]
  | ok found => simp [Except.toOption]

theorem toOption_isSome_iff {outcome : Except ε α} :
    outcome.toOption.isSome = true ↔ ∃ value, outcome = .ok value := by
  cases outcome with
  | error error => simp [Except.toOption]
  | ok found => simp [Except.toOption]

theorem bind_eq_ok_iff {outcome : Except ε α} {f : α → Except ε β} {value : β} :
    (outcome >>= f) = .ok value ↔ ∃ found, outcome = .ok found ∧ f found = .ok value := by
  cases outcome with
  | error error => simp [bind, Except.bind]
  | ok found => simp [bind, Except.bind]

theorem bind_eq_error_iff {outcome : Except ε α} {f : α → Except ε β} {error : ε} :
    (outcome >>= f) = .error error ↔
      outcome = .error error ∨ ∃ value, outcome = .ok value ∧ f value = .error error := by
  cases outcome with
  | error cause => simp [bind, Except.bind]
  | ok value => simp [bind, Except.bind]

theorem bind_succeeds_iff {outcome : Except ε α} {f : α → Except ε β} :
    (∃ value, (outcome >>= f) = .ok value) ↔
      ∃ found, outcome = .ok found ∧ ∃ value, f found = .ok value := by
  cases outcome with
  | error error => simp [bind, Except.bind]
  | ok found => simp [bind, Except.bind]

theorem bind_fails_iff {outcome : Except ε α} {f : α → Except ε β} :
    (∃ error, (outcome >>= f) = .error error) ↔
      (∃ error, outcome = .error error) ∨
        ∃ value, outcome = .ok value ∧ ∃ error, f value = .error error := by
  cases outcome with
  | error error => simp [bind, Except.bind]
  | ok value => simp [bind, Except.bind]

theorem ite_fails_iff {condition : Prop} [Decidable condition] {error : ε} {value : α} :
    (∃ found, (if condition then Except.error error else .ok value) = .error found) ↔ condition := by
  split <;> simp_all

theorem map_eq_ok_iff {outcome : Except ε α} {f : α → β} {value : β} :
    outcome.map f = .ok value ↔ ∃ found, outcome = .ok found ∧ f found = value := by
  cases outcome with
  | error error => simp [Except.map]
  | ok found => simp [Except.map]

theorem map_fails_iff {outcome : Except ε α} {f : α → β} :
    (∃ error, outcome.map f = .error error) ↔ ∃ error, outcome = .error error := by
  cases outcome with
  | error error => simp [Except.map]
  | ok found => simp [Except.map]

theorem mapError_eq_ok_iff {δ : Type} {outcome : Except ε α} {f : ε → δ} {value : α} :
    outcome.mapError f = .ok value ↔ outcome = .ok value := by
  cases outcome with
  | error error => exact iff_of_false nofun nofun
  | ok found =>
    change Except.ok found = Except.ok value ↔ _
    simp

theorem map_eq_error_iff {outcome : Except ε α} {f : α → β} {error : ε} :
    outcome.map f = .error error ↔ outcome = .error error := by
  cases outcome with
  | error cause => simp [Except.map]
  | ok found => simp [Except.map]

theorem mapError_eq_error_iff {δ : Type} {outcome : Except ε α} {f : ε → δ} {error : δ} :
    outcome.mapError f = .error error ↔ ∃ cause, outcome = .error cause ∧ f cause = error := by
  cases outcome with
  | error cause =>
    change Except.error (f cause) = Except.error error ↔ _
    simp
  | ok found => exact iff_of_false nofun nofun

theorem mapError_fails_iff {δ : Type} {outcome : Except ε α} {f : ε → δ} :
    (∃ error, outcome.mapError f = .error error) ↔ ∃ error, outcome = .error error := by
  simp only [mapError_eq_error_iff]
  constructor
  · rintro ⟨_, cause, hcause, -⟩
    exact ⟨cause, hcause⟩
  · rintro ⟨cause, hcause⟩
    exact ⟨f cause, cause, hcause, rfl⟩

/-- A function applied to each item fails exactly if it fails on one of them. -/
theorem mapM_fails_iff {f : α → Except ε β} {items : List α} :
    (∃ error, items.mapM f = .error error) ↔ ∃ item ∈ items, ∃ error, f item = .error error := by
  induction items with
  | nil => simp [pure, Except.pure]
  | cons item rest ih =>
    simp only [List.mem_cons, exists_eq_or_imp, ← ih, List.mapM_cons]
    cases hitem : f item with
    | error error => simp [bind, Except.bind]
    | ok value => cases rest.mapM f <;> simp [bind, Except.bind, pure, Except.pure]

theorem mapM_map {γ : Type} (f : α → Except ε β) (g : β → γ) (items : List α) :
    items.mapM (fun item => (f item).map g) = (items.mapM f).map (List.map g) := by
  induction items with
  | nil => rfl
  | cons item rest ih =>
    rw [List.mapM_cons, List.mapM_cons, ih]
    cases f item with
    | error error => rfl
    | ok value => cases rest.mapM f <;> rfl

theorem mapM_mapError {δ : Type} (f : α → Except ε β) (g : ε → δ) (items : List α) :
    items.mapM (fun item => (f item).mapError g) = (items.mapM f).mapError g := by
  induction items with
  | nil => rfl
  | cons item rest ih =>
    rw [List.mapM_cons, List.mapM_cons, ih]
    cases f item with
    | error error => rfl
    | ok value => cases rest.mapM f <;> rfl

theorem mapM_cons_eq_ok_iff {f : α → Except ε β} {item : α} {rest : List α} {values : List β} :
    (item :: rest).mapM f = .ok values ↔
      ∃ value more, f item = .ok value ∧ rest.mapM f = .ok more ∧ value :: more = values := by
  rw [List.mapM_cons]
  cases f item with
  | error error => simp [bind, Except.bind]
  | ok value => cases rest.mapM f <;> simp [bind, Except.bind, pure, Except.pure]

theorem exists_of_mem_mapM {f : α → Except ε β} {items : List α} {values : List β}
    (hvalues : items.mapM f = .ok values) {value : β} (hmem : value ∈ values) :
    ∃ item ∈ items, f item = .ok value := by
  induction items generalizing values with
  | nil =>
    cases hvalues
    cases hmem
  | cons item rest ih =>
    obtain ⟨first, more, hfirst, hmore, rfl⟩ := mapM_cons_eq_ok_iff.1 hvalues
    rcases List.mem_cons.1 hmem with rfl | hmem
    · exact ⟨item, List.mem_cons_self, hfirst⟩
    · obtain ⟨found, hfound, hvalue⟩ := ih hmore hmem
      exact ⟨found, List.mem_cons_of_mem item hfound, hvalue⟩

/-- Values from which their items can be told give back the list. -/
theorem map_of_mapM {f : α → Except ε β} {g : β → α}
    (hback : ∀ {item value}, f item = .ok value → g value = item) {items : List α} {values : List β}
    (hvalues : items.mapM f = .ok values) : values.map g = items := by
  induction items generalizing values with
  | nil =>
    cases hvalues
    rfl
  | cons item rest ih =>
    obtain ⟨value, more, hvalue, hmore, rfl⟩ := mapM_cons_eq_ok_iff.1 hvalues
    rw [List.map_cons, hback hvalue, ih hmore]

/-- What holds between the values of related items holds between the values of items in that order. -/
theorem pairwise_of_mapM {f : α → Except ε β} {items : List α} {values : List β}
    (hvalues : items.mapM f = .ok values) {R : α → α → Prop} {S : β → β → Prop}
    (hrelate : ∀ {earlier later value next}, R earlier later → f earlier = .ok value →
      f later = .ok next → S value next) (hitems : items.Pairwise R) : values.Pairwise S := by
  induction items generalizing values with
  | nil =>
    cases hvalues
    exact List.Pairwise.nil
  | cons item rest ih =>
    obtain ⟨hfirst, hrest⟩ := List.pairwise_cons.1 hitems
    obtain ⟨value, more, hvalue, hmore, rfl⟩ := mapM_cons_eq_ok_iff.1 hvalues
    refine List.pairwise_cons.2 ⟨fun next hmem => ?_, ih hmore hrest⟩
    obtain ⟨later, hlater, hnext⟩ := exists_of_mem_mapM hmore hmem
    exact hrelate (hfirst later hlater) hvalue hnext

/-- A fold whose steps fail on certain items, whatever came before them, fails exactly if one of these is
    among its items. -/
theorem foldlM_fails_iff {f : β → α → Except ε β} {fails : α → Prop}
    (hfails : ∀ state item, (∃ error, f state item = .error error) ↔ fails item) {items : List α}
    (state : β) :
    (∃ error, items.foldlM f state = .error error) ↔ ∃ item ∈ items, fails item := by
  induction items generalizing state with
  | nil => simp [pure, Except.pure]
  | cons item rest ih =>
    simp only [List.mem_cons, exists_eq_or_imp, ← ih state, ← hfails state item, List.foldlM_cons]
    cases hitem : f state item with
    | error error => simp [bind, Except.bind]
    | ok next => simp [bind, Except.bind, ih]

/-- What a fold fails with, one of its steps fails with. -/
theorem exists_of_foldlM_eq_error {f : β → α → Except ε β} {items : List α} {state : β} {error : ε}
    (hfold : items.foldlM f state = .error error) :
    ∃ item ∈ items, ∃ reached, f reached item = .error error := by
  induction items generalizing state with
  | nil => cases hfold
  | cons item rest ih =>
    rw [List.foldlM_cons] at hfold
    cases hitem : f state item with
    | error cause =>
      rw [hitem] at hfold
      cases hfold
      exact ⟨item, List.mem_cons_self, state, hitem⟩
    | ok next =>
      rw [hitem] at hfold
      obtain ⟨other, hother, herror⟩ := ih hfold
      exact ⟨other, List.mem_cons_of_mem item hother, herror⟩

/-- A fold whose steps give values is the fold of these values. -/
theorem foldlM_eq_ok_foldl {f : β → α → Except ε β} {g : β → α → β} {items : List α}
    (hsteps : ∀ state, ∀ item ∈ items, f state item = .ok (g state item)) (state : β) :
    items.foldlM f state = .ok (items.foldl g state) := by
  induction items generalizing state with
  | nil => rfl
  | cons item rest ih =>
    rw [List.foldlM_cons, hsteps state item List.mem_cons_self]
    exact ih (fun state other hother => hsteps state other (List.mem_cons_of_mem item hother)) _

/-- What each step that succeeds keeps, a fold that succeeds keeps. -/
theorem foldlM_preserves {f : β → α → Except ε β} {P : β → Prop}
    (hstep : ∀ state item next, P state → f state item = .ok next → P next) {items : List α}
    {state last : β} (hstate : P state) (hfold : items.foldlM f state = .ok last) : P last := by
  induction items generalizing state with
  | nil =>
    cases hfold
    exact hstate
  | cons item rest ih =>
    rw [List.foldlM_cons] at hfold
    cases hitem : f state item with
    | error error =>
      rw [hitem] at hfold
      cases hfold
    | ok next =>
      rw [hitem] at hfold
      exact ih (hstep state item next hstate hitem) hfold

end Recurrence
