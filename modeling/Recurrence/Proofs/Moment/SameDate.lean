import Mathlib.Data.List.Find
import Recurrence.Proofs.Moment.Stamp

namespace Recurrence

open Text (padded padded_injective padded_append_inj)

/-- The change of the clocks skips or repeats a civil time. -/
def Change.Crosses (change : Change) (civil : Civil) : Prop :=
  change.civilSecond true ≤ civil.epochSecond ∧ civil.epochSecond < change.civilSecond false

theorem Change.civilSecond_true_le (change : Change) : change.civilSecond true ≤ change.civilSecond false := by
  simp only [civilSecond, if_true, Bool.false_eq_true, if_false]
  omega

/-- Where the two passes of a civil time have different phases, a change skips or repeats the time. -/
theorem Zone.exists_crosses {zone : Zone} {civil : Civil}
    (hphases : zone.phaseOf civil false ≠ zone.phaseOf civil true) :
    ∃ change ∈ zone.changesThrough (civil.date.year + 1), change.Crosses civil := by
  rw [phaseOf_eq_phaseBy, phaseOf_eq_phaseBy] at hphases
  by_contra hnone
  apply hphases
  -- No change tells the passes apart, so both look for the same change.
  have hsame : ∀ change ∈ zone.changesThrough (civil.date.year + 1),
      decide (change.civilSecond false ≤ civil.epochSecond) =
        decide (change.civilSecond true ≤ civil.epochSecond) := by
    intro change hmem
    have horder := change.civilSecond_true_le
    have hcrosses : ¬ change.Crosses civil := fun hcrosses => hnone ⟨change, hmem, hcrosses⟩
    unfold Change.Crosses at hcrosses
    rw [decide_eq_decide]
    omega
  rw [phaseBy, phaseBy, List.find?_congr hsame]

/-- The offset of a civil time is the same on both passes, or it tells them apart. -/
theorem Zone.offset_phaseOf_eq_iff {zone : Zone} {civil : Civil} {first second : Bool} :
    (zone.phaseOf civil first).offset = (zone.phaseOf civil second).offset ↔ first = second ∨
      (zone.phaseOf civil false).offset = (zone.phaseOf civil true).offset := by
  cases first with
  | false => cases second <;> simp
  | true => cases second <;> simp [eq_comm]

/-- Different offsets below a day are written differently. -/
theorem offsetText_injective {a b : Int} (ha : a.natAbs < 86400) (hb : b.natAbs < 86400)
    (hsame : offsetText a = offsetText b) : a = b := by
  have hlists := congrArg String.toList hsame
  rw [toList_offsetText, toList_offsetText, List.cons.injEq] at hlists
  obtain ⟨hsign, hrest⟩ := hlists
  obtain ⟨hhoursA, -⟩ := isNumeral_offsetHours ha
  obtain ⟨hhoursB, -⟩ := isNumeral_offsetHours hb
  obtain ⟨hhours, hrest⟩ := List.append_inj hrest (hhoursA.length.trans hhoursB.length.symm)
  obtain ⟨hminutes, hrest⟩ := List.append_inj (List.cons.inj hrest).2
    ((isNumeral_offsetMinutes a).1.length.trans (isNumeral_offsetMinutes b).1.length.symm)
  have hseconds : a.natAbs % 60 = b.natAbs % 60 := by
    by_cases hwholeA : a % 60 = 0
    · by_cases hwholeB : b % 60 = 0
      · omega
      · rw [if_pos hwholeA, if_neg hwholeB] at hrest
        cases hrest
    · by_cases hwholeB : b % 60 = 0
      · rw [if_neg hwholeA, if_pos hwholeB] at hrest
        cases hrest
      · rw [if_neg hwholeA, if_neg hwholeB] at hrest
        exact padded_injective (String.toList_inj.1 (List.cons.inj hrest).2)
  have hhours := padded_injective (String.toList_inj.1 hhours)
  have hminutes := padded_injective (String.toList_inj.1 hminutes)
  have hside : a < 0 ↔ b < 0 := by
    unfold offsetSign at hsign
    by_cases hwestA : a < 0
    · by_cases hwestB : b < 0
      · exact iff_of_true hwestA hwestB
      · rw [if_pos hwestA, if_neg hwestB] at hsign
        cases hsign
    · by_cases hwestB : b < 0
      · rw [if_neg hwestA, if_pos hwestB] at hsign
        cases hsign
      · exact iff_of_false hwestA hwestB
  unfold offsetHours at hhours
  unfold offsetMinutes at hminutes
  omega

/-- What a civil time is written as before the offset. -/
def Civil.stem (civil : Civil) : String :=
  civil.date.iso ++ "T" ++ civil.time.clock ++ "." ++ padded 3 (civil.time.micro / 1000)

namespace Moment

theorem render_of_offset {moment : Moment} {offset : Int} (hoffset : moment.offset? = some offset) :
    moment.render = moment.civil.stem ++ offsetText offset := by
  simp only [render, offsetSuffix, hoffset, Option.map_some, Option.getD_some, Civil.stem]

/-- Such a zone shows a moment on its own clock. -/
theorem frame_of_toZone_exact {zones : ZoneDatabase} (hsound : zones.IsSound) {moment shown : Moment}
    {zone : Zone} (hknown : moment.frame.IsKnown zones) (hnamed : (TargetZone.exact zone).IsNamed zones)
    (hshown : moment.toZone (.exact zone) = .ok shown) :
    shown.frame = .zoned zone := by
  cases hhome : moment.isIn (.exact zone) with
  | false =>
    obtain ⟨-, -, hframe, -⟩ := toZone_exact_eq_ok hhome hshown
    exact hframe
  | true =>
    rw [toZone_exact_of_isIn hhome] at hshown
    cases hshown
    obtain ⟨here, hframe, hname⟩ := isIn_exact_iff.1 hhome
    rw [hframe] at hknown ⊢
    obtain ⟨name, hzone⟩ := hnamed
    obtain ⟨other, hother⟩ := hknown
    rw [hsound.eq_of_named hother hzone hname]

end Moment

namespace Projection

variable {zones : ZoneDatabase} {zone : Zone} {moment shown : Moment}

/-- A projection writes the date that the zone's clock shows, the asked time of day, and the offset of that
    time on the pass that the clock shows the moment on. -/
theorem project_exact_of_frame (hshown : moment.toZone (.exact zone) = .ok shown)
    (hframe : shown.frame = .zoned zone) (time : TimeOfDay) :
    project ⟨.exact zone, time⟩ moment = .ok ((shown.atClock time).civil.stem ++
      offsetText (zone.phaseOf (shown.atClock time).civil shown.fold).offset) := by
  have hoffset : (shown.atClock time).offset? =
      some (zone.phaseOf (shown.atClock time).civil shown.fold).offset := by
    rw [Moment.offset?, Moment.atClock, hframe]
  rw [project, pin, Moment.pin_exact, hshown, Except.map, Except.map, Moment.render_of_offset hoffset]

theorem project_exact (hsound : zones.IsSound) (hnamed : (TargetZone.exact zone).IsNamed zones)
    (hknown : moment.frame.IsKnown zones) (hshown : moment.toZone (.exact zone) = .ok shown) (time : TimeOfDay) :
    project ⟨.exact zone, time⟩ moment = .ok (Civil.stem ⟨shown.civil.date, time.wholeSecond⟩ ++
      offsetText (zone.phaseOf ⟨shown.civil.date, time.wholeSecond⟩ shown.fold).offset) :=
  project_exact_of_frame hshown (Moment.frame_of_toZone_exact hsound hknown hnamed hshown) time

/-- Two moments that a zone's clock shows on one date are projected to texts that agree up to the offset.
    The texts are the same exactly if the clock shows both moments on one pass or the offset of the pinned
    time does not depend on the pass; it depends on it only where a change of the zone's clocks skips or
    repeats that time. -/
theorem project_of_same_date (hsound : zones.IsSound) {name : String}
    (hfound : zones.search name = .ok (.exact zone)) {a b shownA shownB : Moment}
    (hknownA : a.frame.IsKnown zones) (hknownB : b.frame.IsKnown zones)
    (hshownA : a.toZone (.exact zone) = .ok shownA) (hshownB : b.toZone (.exact zone) = .ok shownB)
    (hdate : shownA.civil.date = shownB.civil.date) (time : TimeOfDay) :
    ∃ civil stem offsetA offsetB, civil = (shownA.atClock time).civil ∧
      project ⟨.exact zone, time⟩ a = .ok (stem ++ offsetText offsetA) ∧
      project ⟨.exact zone, time⟩ b = .ok (stem ++ offsetText offsetB) ∧
      (stem ++ offsetText offsetA = stem ++ offsetText offsetB ↔ shownA.fold = shownB.fold ∨
        (zone.phaseOf civil false).offset = (zone.phaseOf civil true).offset) ∧
      ((zone.phaseOf civil false).offset ≠ (zone.phaseOf civil true).offset →
        ∃ change ∈ zone.changesThrough (civil.date.year + 1), change.Crosses civil) := by
  have hnamed := ZoneDatabase.isNamed_of_search hfound
  have hprojectA := project_exact hsound hnamed hknownA hshownA time
  have hprojectB := project_exact hsound hnamed hknownB hshownB time
  rw [← hdate] at hprojectB
  refine ⟨_, _, _, _, rfl, hprojectA, hprojectB, ?_, ?_⟩
  · obtain ⟨ownName, hzone⟩ := hnamed
    have hbound : ∀ civil fold, (zone.phaseOf civil fold).offset.natAbs < 86400 := by
      intro civil fold
      have := (hsound.isJoined hzone).offsets _ (zone.phaseOf_offset_mem civil fold)
      omega
    rw [String.append_right_inj]
    exact Iff.trans ⟨offsetText_injective (hbound _ _) (hbound _ _), congrArg offsetText⟩
      Zone.offset_phaseOf_eq_iff
  · intro hoffsets
    apply Zone.exists_crosses
    intro hphases
    exact hoffsets (congrArg Phase.offset hphases)

/-- On the day when the clocks of New York go back from two to one, half past one comes twice, and the two
    instants at which it does are projected to different texts. -/
theorem project_repeated_in_newYork :
    ∃ halfPastOne first second shownFirst shownSecond textFirst textSecond,
      TimeOfDay.ofFields 1 30 0 0 = .ok halfPastOne ∧ Civil.ofFields 2024 11 3 5 30 0 0 = .ok first ∧
      Civil.ofFields 2024 11 3 6 30 0 0 = .ok second ∧
      ZoneDatabase.listed.search "America/New_York" = .ok (.exact Zone.Table.newYork) ∧
      (Moment.utc first).frame.IsKnown .listed ∧ (Moment.utc second).frame.IsKnown .listed ∧
      (Moment.utc first).toZone (.exact Zone.Table.newYork) = .ok shownFirst ∧
      (Moment.utc second).toZone (.exact Zone.Table.newYork) = .ok shownSecond ∧
      shownFirst.civil.date = shownSecond.civil.date ∧
      project ⟨.exact Zone.Table.newYork, halfPastOne⟩ (.utc first) = .ok textFirst ∧
      project ⟨.exact Zone.Table.newYork, halfPastOne⟩ (.utc second) = .ok textSecond ∧
      textFirst ≠ textSecond := by
  have hfound : ZoneDatabase.listed.search "America/New_York" = .ok (.exact Zone.Table.newYork) :=
    toOption_eq_some_iff.1 (by decide +kernel)
  obtain ⟨halfPastOne, first, second, shownFirst, shownSecond, hclock, hfirst, hsecond, hshownFirst,
      hshownSecond, hdate, hpasses, hoffsets⟩ : ∃ halfPastOne first second shownFirst shownSecond,
        TimeOfDay.ofFields 1 30 0 0 = .ok halfPastOne ∧
        Civil.ofFields 2024 11 3 5 30 0 0 = .ok first ∧ Civil.ofFields 2024 11 3 6 30 0 0 = .ok second ∧
        (Moment.utc first).toZone (.exact Zone.Table.newYork) = .ok shownFirst ∧
        (Moment.utc second).toZone (.exact Zone.Table.newYork) = .ok shownSecond ∧
        shownFirst.civil.date = shownSecond.civil.date ∧ shownFirst.fold ≠ shownSecond.fold ∧
        (Zone.Table.newYork.phaseOf (shownFirst.atClock halfPastOne).civil false).offset ≠
          (Zone.Table.newYork.phaseOf (shownFirst.atClock halfPastOne).civil true).offset :=
    ⟨_, _, _, _, _, rfl, rfl, rfl, rfl, rfl, by decide +kernel, by decide +kernel, by decide +kernel⟩
  obtain ⟨civil, stem, offsetFirst, offsetSecond, rfl, htextFirst, htextSecond, hsame, -⟩ :=
    project_of_same_date (a := .utc first) (b := .utc second) ZoneDatabase.isSound_listed hfound trivial trivial
      hshownFirst hshownSecond hdate halfPastOne
  refine ⟨halfPastOne, first, second, shownFirst, shownSecond, _, _, hclock, hfirst, hsecond, hfound,
    trivial, trivial, hshownFirst, hshownSecond, hdate, htextFirst, htextSecond, ?_⟩
  rw [ne_eq, hsame, not_or]
  exact ⟨hpasses, hoffsets⟩

end Projection

end Recurrence
