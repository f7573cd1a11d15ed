import Mathlib.Data.List.Find
import Recurrence.Proofs.Zone.Spacing

namespace Recurrence

/-- The phase that the newest of some changes has brought. -/
def latestPhase (initial : Phase) (changes : List Change) : Phase :=
  (changes.head?.map (·.after)).getD initial

/-- Every change, newest first, takes up the phase that the one before it brought, the oldest the initial one. -/
def Linked (initial : Phase) : List Change → Prop
  | [] => True
  | newest :: older => newest.before = latestPhase initial older ∧ Linked initial older

instance decidableLinked (initial : Phase) : (changes : List Change) → Decidable (Linked initial changes)
  | [] => isTrue trivial
  | newest :: older =>
    have := decidableLinked initial older
    inferInstanceAs (Decidable (newest.before = latestPhase initial older ∧ Linked initial older))

theorem latestPhase_append (initial : Phase) (newer older : List Change) :
    latestPhase initial (newer ++ older) = latestPhase (latestPhase initial older) newer := by
  cases newer <;> rfl

theorem linked_append {initial : Phase} {newer older : List Change}
    (hnewer : Linked (latestPhase initial older) newer) (holder : Linked initial older) :
    Linked initial (newer ++ older) := by
  induction newer with
  | nil => exact holder
  | cons newest rest ih =>
    refine ⟨?_, ih hnewer.2⟩
    change newest.before = latestPhase initial (rest ++ older)
    rw [latestPhase_append]
    exact hnewer.1

/-- A change in the middle takes up what the changes before it brought. -/
theorem Linked.before_eq {initial : Phase} {newer older : List Change} {change : Change}
    (hlinked : Linked initial (newer ++ change :: older)) : change.before = latestPhase initial older := by
  induction newer with
  | nil => exact hlinked.1
  | cons newest rest ih => exact ih hlinked.2

/-- Changes of a clock, newest first, that are two days apart and join, between offsets of 18 hours at most. -/
structure Timetable where
  initial : Phase
  changes : List Change
  apart : changes.Pairwise Change.Apart
  linked : Linked initial changes
  initial_between : -64800 ≤ initial.offset ∧ initial.offset ≤ 64800
  after_between : ∀ change ∈ changes, -64800 ≤ change.after.offset ∧ change.after.offset ≤ 64800

namespace Timetable

/-- The change that brought the phase in force at a second. -/
def lastAt? (table : Timetable) (second : Int) : Option Change :=
  table.changes.find? (·.instant ≤ second)

/-- The phase in force at a second. -/
def phaseAt (table : Timetable) (second : Int) : Phase :=
  ((table.lastAt? second).map (·.after)).getD table.initial

/-- Whether the civil second that is shown at a second is shown for the second time. -/
def foldAt (table : Timetable) (second : Int) : Bool :=
  (table.lastAt? second).any fun change =>
    second - change.instant < change.before.offset - change.after.offset

/-- The civil second that the clock shows at a second. -/
def shownAt (table : Timetable) (second : Int) : Int := second + (table.phaseAt second).offset

/-- The phase that a civil second means. -/
def phaseOf (table : Timetable) (civil : Int) (fold : Bool) : Phase :=
  ((table.changes.find? (·.civilSecond fold ≤ civil)).map (·.after)).getD table.initial

variable (table : Timetable) {change : Change} {second : Int}

theorem latestPhase_between {newer older : List Change} (hchanges : table.changes = newer ++ older) :
    -64800 ≤ (latestPhase table.initial older).offset ∧ (latestPhase table.initial older).offset ≤ 64800 := by
  cases older with
  | nil => exact table.initial_between
  | cons newest older =>
    apply table.after_between newest
    rw [hchanges]
    exact List.mem_append_right newer List.mem_cons_self

theorem before_between (hmem : change ∈ table.changes) :
    -64800 ≤ change.before.offset ∧ change.before.offset ≤ 64800 := by
  obtain ⟨newer, older, hchanges⟩ := List.append_of_mem hmem
  have hlinked := table.linked
  rw [hchanges] at hlinked
  rw [hlinked.before_eq]
  apply table.latestPhase_between
  rw [hchanges, List.append_cons]

theorem phaseAt_between (second : Int) :
    -64800 ≤ (table.phaseAt second).offset ∧ (table.phaseAt second).offset ≤ 64800 := by
  unfold phaseAt
  cases hlast : table.lastAt? second with
  | none => exact table.initial_between
  | some change => exact table.after_between change (List.mem_of_find?_eq_some hlast)

/-- Where one change is the last at two seconds, it is so between them. -/
theorem lastAt?_eq_of_between {first last : Int} (hsame : table.lastAt? first = table.lastAt? last)
    (hge : first ≤ second) (hle : second ≤ last) : table.lastAt? second = table.lastAt? last := by
  cases hlast : table.lastAt? last with
  | none =>
    unfold lastAt? at hlast ⊢
    rw [List.find?_eq_none] at hlast ⊢
    intro change hmem
    have hlater := hlast change hmem
    rw [decide_eq_true_iff] at hlater ⊢
    omega
  | some change =>
    rw [hlast] at hsame
    have hpassed : change.instant ≤ first := by simpa using List.find?_some hsame
    unfold lastAt? at hlast ⊢
    obtain ⟨-, newer, older, hchanges, hnewer⟩ := List.find?_eq_some_iff_append.1 hlast
    rw [List.find?_eq_some_iff_append]
    refine ⟨decide_eq_true (by omega), newer, older, hchanges, fun later hlater => ?_⟩
    have hafter := hnewer later hlater
    simp only [Bool.not_eq_true', decide_eq_false_iff_not] at hafter ⊢
    omega

/-- For two days from a change on, it is the last one. -/
theorem lastAt?_eq_some (hmem : change ∈ table.changes) (hge : change.instant ≤ second)
    (hlt : second < change.instant + 172800) : table.lastAt? second = some change := by
  obtain ⟨newer, older, hchanges⟩ := List.append_of_mem hmem
  have hapart := table.apart
  rw [hchanges, List.pairwise_append] at hapart
  unfold lastAt?
  rw [List.find?_eq_some_iff_append]
  refine ⟨decide_eq_true hge, newer, older, hchanges, fun later hlater => ?_⟩
  have hnewer := hapart.2.2 later hlater change List.mem_cons_self
  unfold Change.Apart at hnewer
  simp only [Bool.not_eq_true', decide_eq_false_iff_not]
  omega

theorem phaseAt_eq_after (hmem : change ∈ table.changes) (hge : change.instant ≤ second)
    (hlt : second < change.instant + 172800) : table.phaseAt second = change.after := by
  rw [phaseAt, table.lastAt?_eq_some hmem hge hlt]
  rfl

/-- For two days up to a change, the phase that it takes up is in force. -/
theorem phaseAt_eq_before (hmem : change ∈ table.changes) (hlt : second < change.instant)
    (hge : change.instant ≤ second + 172800) : table.phaseAt second = change.before := by
  obtain ⟨newer, older, hchanges⟩ := List.append_of_mem hmem
  have hapart := table.apart
  have hlinked := table.linked
  rw [hchanges] at hapart hlinked
  obtain ⟨-, holder, hacross⟩ := List.pairwise_append.1 hapart
  have hnone : ∀ later ∈ newer, ¬ decide (later.instant ≤ second) = true := by
    intro later hlater
    have hnewer := hacross later hlater change List.mem_cons_self
    unfold Change.Apart at hnewer
    simp only [decide_eq_true_eq]
    omega
  have hnot : ¬ change.instant ≤ second := by omega
  rw [hlinked.before_eq, phaseAt, lastAt?, hchanges, List.find?_append, List.find?_eq_none.2 hnone,
    Option.none_or, List.find?_cons_of_neg (by simpa using hnot)]
  cases older with
  | nil => rfl
  | cons next rest =>
    have hnext := (List.pairwise_cons.1 holder).1 next List.mem_cons_self
    unfold Change.Apart at hnext
    have hpassed : next.instant ≤ second := by omega
    rw [List.find?_cons_of_pos (by simpa using hpassed)]
    rfl

/-- An earlier change lies two days before. -/
theorem instant_add_le {earlier : Change} (hearlier : earlier ∈ table.changes) (hmem : change ∈ table.changes)
    (hlt : earlier.instant < change.instant) : earlier.instant + 172800 ≤ change.instant := by
  obtain ⟨newer, older, hchanges⟩ := List.append_of_mem hmem
  have hapart := table.apart
  rw [hchanges] at hapart hearlier
  obtain ⟨-, holder, hacross⟩ := List.pairwise_append.1 hapart
  rcases List.mem_append.1 hearlier with hnewer | hrest
  · have hlater := hacross earlier hnewer change List.mem_cons_self
    unfold Change.Apart at hlater
    omega
  · rcases List.mem_cons.1 hrest with rfl | hrest
    · exact absurd hlt (Int.lt_irrefl _)
    · exact (List.pairwise_cons.1 holder).1 earlier hrest

/-- Where a second is shown for the second time, the last change has just put the clock back. -/
theorem exists_of_foldAt (hfold : table.foldAt second = true) :
    ∃ change ∈ table.changes, change.instant ≤ second ∧ table.phaseAt second = change.after ∧
      second - change.instant < change.before.offset - change.after.offset := by
  unfold foldAt at hfold
  cases hlast : table.lastAt? second with
  | none =>
    rw [hlast] at hfold
    cases hfold
  | some change =>
    rw [hlast, Option.any_some, decide_eq_true_iff] at hfold
    have hge := List.find?_some hlast
    refine ⟨change, List.mem_of_find?_eq_some hlast, of_decide_eq_true hge, ?_, hfold⟩
    rw [phaseAt, hlast]
    rfl

/-- On the clock and with the fold that a second is shown with, a change lies before it exactly if it does so
    itself. -/
theorem civilSecond_le_shownAt_iff (hmem : change ∈ table.changes) (second : Int) :
    change.civilSecond (table.foldAt second) ≤ table.shownAt second ↔ change.instant ≤ second := by
  have hbefore := table.before_between hmem
  have hafter := table.after_between change hmem
  have hphase := table.phaseAt_between second
  unfold shownAt Change.civilSecond
  rcases Int.lt_or_le second change.instant with hearly | hlate
  · rcases Int.lt_or_le (second + 172800) change.instant with hfar | hnear
    · split <;> omega
    · -- The change is the next one. The clock may have been put back just before, by a change two days earlier.
      have hcurrent := table.phaseAt_eq_before hmem hearly hnear
      split
      · next hfold =>
        obtain ⟨last, hlast, hpassed, hbrought, hback⟩ := table.exists_of_foldAt hfold
        have hlastBefore := table.before_between hlast
        have hsame : last.after.offset = change.before.offset := by rw [← hbrought, hcurrent]
        have hapart := table.instant_add_le hlast hmem (by omega)
        rw [hcurrent]
        omega
      · rw [hcurrent]
        omega
  · rcases Int.lt_or_le second (change.instant + 172800) with hnear | hfar
    · have hlast := table.lastAt?_eq_some hmem hlate hnear
      rw [table.phaseAt_eq_after hmem hlate hnear]
      have hfold : table.foldAt second =
          decide (second - change.instant < change.before.offset - change.after.offset) := by
        rw [foldAt, hlast, Option.any_some]
      rw [hfold]
      by_cases hback : second - change.instant < change.before.offset - change.after.offset
      · rw [decide_eq_true hback, if_pos rfl]
        omega
      · rw [decide_eq_false hback, if_neg Bool.false_ne_true]
        omega
    · split <;> omega

/-- A civil second that is shown means, with its fold, the phase that it is shown in. -/
theorem phaseOf_shownAt (second : Int) :
    table.phaseOf (table.shownAt second) (table.foldAt second) = table.phaseAt second := by
  have hsame : ∀ change ∈ table.changes,
      decide (change.civilSecond (table.foldAt second) ≤ table.shownAt second) =
        decide (change.instant ≤ second) := by
    intro change hmem
    rw [decide_eq_decide]
    exact table.civilSecond_le_shownAt_iff hmem second
  rw [phaseOf, List.find?_congr hsame, phaseAt, lastAt?]

/-- A civil second that is shown once lies on the same side of every change with either fold. -/
theorem civilSecond_le_iff_of_shownOnce (hmem : change ∈ table.changes)
    (honce : ∀ other, table.shownAt other = table.shownAt second → other = second) (fold : Bool) :
    change.civilSecond fold ≤ table.shownAt second ↔ change.instant ≤ second := by
  have hbefore := table.before_between hmem
  have hafter := table.after_between change hmem
  have hphase := table.phaseAt_between second
  rcases Int.lt_or_le second change.instant with hearly | hlate
  · rcases Int.lt_or_le (second + 172800) change.instant with hfar | hnear
    · unfold shownAt Change.civilSecond
      split <;> omega
    · have hcurrent := table.phaseAt_eq_before hmem hearly hnear
      -- After the change the clock would show the time again.
      have hagain : ¬ change.instant ≤ table.shownAt second - change.after.offset := by
        intro hagain
        have hother : table.shownAt (table.shownAt second - change.after.offset) = table.shownAt second := by
          rw [shownAt, table.phaseAt_eq_after hmem hagain (by unfold shownAt; omega)]
          omega
        have := honce _ hother
        omega
      unfold shownAt at hagain ⊢
      unfold Change.civilSecond
      rw [hcurrent] at hagain ⊢
      split <;> omega
  · rcases Int.lt_or_le second (change.instant + 172800) with hnear | hfar
    · have hcurrent := table.phaseAt_eq_after hmem hlate hnear
      -- Before the change the clock would have shown the time already.
      have hbeforehand : ¬ table.shownAt second - change.before.offset < change.instant := by
        intro hbeforehand
        have hother : table.shownAt (table.shownAt second - change.before.offset) = table.shownAt second := by
          rw [shownAt, table.phaseAt_eq_before hmem hbeforehand (by unfold shownAt; omega)]
          omega
        have := honce _ hother
        omega
      unfold shownAt at hbeforehand ⊢
      unfold Change.civilSecond
      rw [hcurrent] at hbeforehand ⊢
      split <;> omega
    · unfold shownAt Change.civilSecond
      split <;> omega

/-- A civil second that is shown once means the phase that it is shown in, with either fold. -/
theorem phaseOf_of_shownOnce (honce : ∀ other, table.shownAt other = table.shownAt second → other = second)
    (fold : Bool) : table.phaseOf (table.shownAt second) fold = table.phaseAt second := by
  have hsame : ∀ change ∈ table.changes,
      decide (change.civilSecond fold ≤ table.shownAt second) = decide (change.instant ≤ second) := by
    intro change hmem
    rw [decide_eq_decide]
    exact table.civilSecond_le_iff_of_shownOnce hmem honce fold
  rw [phaseOf, List.find?_congr hsame, phaseAt, lastAt?]

end Timetable

end Recurrence
