import Recurrence.Proofs.Zone.Joined

namespace Recurrence

/-- Whole days between two times of the calendar are whole days between their seconds. -/
theorem Civil.epochSecond_sub_of_ticks_sub {earlier later : Civil} {days : Nat}
    (hticks : (later.ticks : Int) - earlier.ticks = days * ticksPerDay) :
    later.epochSecond - earlier.epochSecond = days * 86400 := by
  have hfraction := earlier.time.micro_lt
  have hother := later.time.micro_lt
  unfold ticks ticksPerDay TimeOfDay.ticks at hticks
  unfold epochSecond
  omega

namespace Zone

theorem phaseBy_cons (initial : Phase) (newest : Change) (older : List Change) (second : Int) :
    phaseBy initial (newest :: older) (·.instant ≤ second) =
      if newest.instant ≤ second then newest.after else phaseBy initial older (·.instant ≤ second) := by
  unfold phaseBy
  by_cases hnewest : newest.instant ≤ second
  · rw [if_pos hnewest, List.find?_cons_of_pos (by simpa using hnewest)]
    rfl
  · rw [if_neg hnewest, List.find?_cons_of_neg (by simpa using hnewest)]

/-- Once all changes have come, the newest of them has brought the phase in force. -/
theorem phaseBy_eq_latestPhase (initial : Phase) {changes : List Change} {second : Int}
    (hpassed : ∀ change ∈ changes, change.instant ≤ second) :
    phaseBy initial changes (·.instant ≤ second) = latestPhase initial changes := by
  cases changes with
  | nil => rfl
  | cons newest older =>
    rw [phaseBy_cons, if_pos (hpassed newest List.mem_cons_self)]
    rfl

/-- Every change takes a day off the offset at most. Of changes that come two days apart a span of time has room for
    one, and for one more in every two days. -/
theorem exists_fall_le {initial : Phase} {changes : List Change} (hapart : changes.Pairwise Change.Apart)
    (hlinked : Linked initial changes)
    (hback : ∀ change ∈ changes, change.before.offset - change.after.offset ≤ 86400) {first last : Int}
    (hle : first ≤ last) :
    ∃ count : Nat, (phaseBy initial changes (·.instant ≤ first)).offset -
        (phaseBy initial changes (·.instant ≤ last)).offset ≤ count * 86400 ∧
      (count : Int) * 172800 < last - first + 172800 := by
  induction changes generalizing last with
  | nil => exact ⟨0, by simp [phaseBy], by omega⟩
  | cons newest older ih =>
    obtain ⟨hnewest, holder⟩ := List.pairwise_cons.1 hapart
    obtain ⟨hbefore, hrest⟩ := hlinked
    obtain ⟨hown, hbackRest⟩ := List.forall_mem_cons.1 hback
    rw [phaseBy_cons, phaseBy_cons]
    by_cases hfirst : newest.instant ≤ first
    · rw [if_pos hfirst, if_pos (Int.le_trans hfirst hle)]
      exact ⟨0, by omega, by omega⟩
    · rw [if_neg hfirst]
      by_cases hlast : newest.instant ≤ last
      · -- Two days before the newest change all older ones have come.
        obtain ⟨upto, hge, hsince, hupto⟩ : ∃ upto, first ≤ upto ∧ newest.instant ≤ upto + 172800 ∧
            (upto = first ∨ upto + 172800 = newest.instant) := by
          rcases Int.le_total first (newest.instant - 172800) with hlong | hshort
          · exact ⟨newest.instant - 172800, hlong, by omega, Or.inr (by omega)⟩
          · exact ⟨first, Int.le_refl _, by omega, Or.inl rfl⟩
        have hpassed : ∀ change ∈ older, change.instant ≤ upto := by
          intro change hmem
          have hearlier := hnewest change hmem
          unfold Change.Apart at hearlier
          omega
        obtain ⟨count, hfall, hcount⟩ := ih holder hrest hbackRest hge
        rw [phaseBy_eq_latestPhase initial hpassed, ← hbefore] at hfall
        rw [if_pos hlast]
        exact ⟨count + 1, by omega, by omega⟩
      · rw [if_neg hlast]
        exact ih holder hrest hbackRest hle

/-- How far the offset of a zone falls between two instants. -/
theorem exists_offset_sub_le {zone : Zone} (hjoined : zone.IsJoined) {before after : Civil}
    (hle : before.epochSecond ≤ after.epochSecond) :
    ∃ count : Nat, (zone.phaseAt before).offset - (zone.phaseAt after).offset ≤ count * 86400 ∧
      (count : Int) * 172800 < after.epochSecond - before.epochSecond + 172800 := by
  obtain ⟨year, hfirst, hlast⟩ : ∃ year, before.date.year < year ∧ after.date.year < year :=
    ⟨max before.date.year after.date.year + 1, by omega, by omega⟩
  rw [phaseAt_eq hjoined hfirst, phaseAt_eq hjoined hlast]
  exact exists_fall_le (hjoined.pairwise_changesThrough year) (hjoined.linked_changesThrough year)
    (fun _ => hjoined.back_of_mem_changesThrough) hle

end Zone

end Recurrence
