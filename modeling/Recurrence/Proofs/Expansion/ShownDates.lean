import Recurrence.Proofs.Expansion.Ascending
import Recurrence.Proofs.Expansion.GenerateFailure
import Recurrence.Proofs.Text.Rendering
import Recurrence.Proofs.Zone.Fall
import Recurrence.Proofs.Zone.Listed

namespace Recurrence

/-- An occurrence, and the moment of a zone's clock that shows it. -/
structure Showing where
  occurrence : Moment
  shown : Moment

namespace Showing

/-- The date that the clock shows. -/
def date (showing : Showing) : Date := showing.shown.civil.date

/-- Seconds by which the offset of a zone is lower at the later showing than at the earlier one. -/
def fall (zone : Zone) (earlier later : Showing) : Int :=
  earlier.occurrence.offsetIn zone - later.occurrence.offsetIn zone

/-- How far the zone's clock has come at the later showing, from midnight of the earlier showing's date: the
    time of day there, and what has passed since, less what the offset has fallen. -/
def clockTick (zone : Zone) (earlier later : Showing) : Int :=
  earlier.shown.civil.time.ticks +
    (later.occurrence.instantTick - earlier.occurrence.instantTick) - earlier.fall zone later * 1000000

/-- How the date of a later occurrence follows that of an earlier one. On the zone's own clock dates ascend;
    on another clock they are as far apart as the zone's clock has moved on. -/
structure Follows (zone : Zone) (earlier later : Showing) : Prop where
  atHome : earlier.occurrence.isIn (.exact zone) = true → earlier.date < later.date
  before_iff : earlier.occurrence.isIn (.exact zone) = false →
    (later.date < earlier.date ↔ earlier.clockTick zone later < 0)
  same_iff : earlier.occurrence.isIn (.exact zone) = false →
    (later.date = earlier.date ↔
      0 ≤ earlier.clockTick zone later ∧ earlier.clockTick zone later < Civil.ticksPerDay)
  /-- From a start that is not on the clock of a zone no date comes before an earlier one, and two dates are
      the same if the offset falls by more than the first one's time of day before the next day. -/
  not_before : (∀ here, earlier.occurrence.frame ≠ .zoned here) → earlier.date ≤ later.date
  same_iff_fall : (∀ here, earlier.occurrence.frame ≠ .zoned here) →
    (later.date = earlier.date ↔
      later.occurrence.civil.date.dayNumber = earlier.occurrence.civil.date.dayNumber + 1 ∧
        (earlier.shown.civil.time.ticks : Int) < earlier.fall zone later * 1000000)
  /-- Different dates are written differently. -/
  apart : later.date ≠ earlier.date → ∀ time,
    (later.shown.atClock time).render ≠ (earlier.shown.atClock time).render

/-- Off the clocks of zones whole days lie between occurrences at one time of day. -/
theorem clockTick_of_unzoned {zone : Zone} {earlier later : Showing}
    (hunzoned : ∀ here, earlier.occurrence.frame ≠ .zoned here)
    (htime : later.occurrence.civil.time = earlier.occurrence.civil.time)
    (hframe : later.occurrence.frame = earlier.occurrence.frame) :
    earlier.clockTick zone later = earlier.shown.civil.time.ticks +
      ((later.occurrence.civil.date.dayNumber : Int) - earlier.occurrence.civil.date.dayNumber) *
        Civil.ticksPerDay - earlier.fall zone later * 1000000 := by
  rw [clockTick, Moment.instantTick_sub hunzoned hframe htime]

section

variable {zone : Zone} {earlier later : Showing}
  (hearlier : earlier.occurrence.toZone (.exact zone) = .ok earlier.shown)
  (hlater : later.occurrence.toZone (.exact zone) = .ok later.shown)
include hearlier hlater

theorem follows_at_home (hhome : earlier.occurrence.isIn (.exact zone) = true)
    (hframe : later.occurrence.frame = earlier.occurrence.frame)
    (hdates : earlier.occurrence.civil.date.dayNumber < later.occurrence.civil.date.dayNumber) :
    earlier.date < later.date := by
  have hother := (Moment.isIn_of_frame hframe (.exact zone)).trans hhome
  rw [Moment.toZone_exact_of_isIn hhome, Except.ok.injEq] at hearlier
  rw [Moment.toZone_exact_of_isIn hother, Except.ok.injEq] at hlater
  unfold date
  rw [← hearlier, ← hlater]
  exact hdates

section

variable (haway : earlier.occurrence.isIn (.exact zone) = false)
  (hframe : later.occurrence.frame = earlier.occurrence.frame)
include haway hframe

/-- Away from home the later reading of the clock is counted from the date of the earlier one. -/
theorem ticks_eq_clockTick :
    (later.shown.civil.ticks : Int) =
      earlier.date.dayNumber * Civil.ticksPerDay + earlier.clockTick zone later := by
  have hother := (Moment.isIn_of_frame hframe (.exact zone)).trans haway
  obtain ⟨-, -, -, hfirst⟩ := Moment.toZone_exact_eq_ok haway hearlier
  obtain ⟨-, -, -, hsecond⟩ := Moment.toZone_exact_eq_ok hother hlater
  unfold Civil.ticks at hfirst
  unfold clockTick fall date
  omega

theorem before_iff_clockTick : later.date < earlier.date ↔ earlier.clockTick zone later < 0 := by
  have hticks := ticks_eq_clockTick hearlier hlater haway hframe
  have hday := later.shown.civil.time.ticks_lt
  change later.date.dayNumber < earlier.date.dayNumber ↔ _
  unfold Civil.ticks Civil.ticksPerDay at hticks
  unfold date at *
  omega

theorem same_iff_clockTick :
    later.date = earlier.date ↔
      0 ≤ earlier.clockTick zone later ∧ earlier.clockTick zone later < Civil.ticksPerDay := by
  have hticks := ticks_eq_clockTick hearlier hlater haway hframe
  have hday := later.shown.civil.time.ticks_lt
  have hdates : later.date = earlier.date ↔ later.date.dayNumber = earlier.date.dayNumber :=
    ⟨congrArg Date.dayNumber, fun hnumber => Date.dayNumber_injective hnumber⟩
  rw [hdates]
  unfold Civil.ticks at hticks
  unfold Civil.ticksPerDay at *
  unfold date at *
  omega

/-- Between showings that are whole days apart the offset falls by a day for each of so many changes, which come two
    days apart. -/
theorem exists_fall_le (hjoined : zone.IsJoined) {days : Nat}
    (hdays : later.occurrence.instantTick - earlier.occurrence.instantTick = days * Civil.ticksPerDay) :
    ∃ count : Nat, earlier.fall zone later ≤ count * 86400 ∧ 2 * count < days + 2 := by
  have hother := (Moment.isIn_of_frame hframe (.exact zone)).trans haway
  obtain ⟨before, hbefore, -⟩ := Moment.toZone_exact_eq_ok haway hearlier
  obtain ⟨after, hafter, -⟩ := Moment.toZone_exact_eq_ok hother hlater
  have hfirst := Moment.toUtc_eq_ok_iff.1 hbefore
  have hsecond := Moment.toUtc_eq_ok_iff.1 hafter
  have hseconds : after.epochSecond - before.epochSecond = days * 86400 :=
    Civil.epochSecond_sub_of_ticks_sub (by omega)
  obtain ⟨count, hfall, hcount⟩ := @Zone.exists_offset_sub_le _ hjoined before after (by omega)
  simp only [fall, Moment.offsetIn, hbefore, hafter]
  exact ⟨count, hfall, by omega⟩

end

/-- Off the clocks of zones the offset takes a day at most from one day to the next, and over more days it leaves one
    of them. -/
theorem fall_le_of_unzoned (hjoined : zone.IsJoined)
    (hunzoned : ∀ here, earlier.occurrence.frame ≠ .zoned here)
    (hdates : earlier.occurrence.civil.date.dayNumber < later.occurrence.civil.date.dayNumber)
    (htime : later.occurrence.civil.time = earlier.occurrence.civil.time)
    (hframe : later.occurrence.frame = earlier.occurrence.frame) :
    earlier.fall zone later ≤ 86400 ∨
      earlier.fall zone later ≤ ((later.occurrence.civil.date.dayNumber : Int) -
        earlier.occurrence.civil.date.dayNumber - 1) * 86400 := by
  have hinstants := Moment.instantTick_sub hunzoned hframe htime
  obtain ⟨days, hdays⟩ : ∃ days : Nat,
      (days : Int) = later.occurrence.civil.date.dayNumber - earlier.occurrence.civil.date.dayNumber :=
    ⟨later.occurrence.civil.date.dayNumber - earlier.occurrence.civil.date.dayNumber, by omega⟩
  rw [← hdays] at hinstants
  obtain ⟨count, hfall, hcount⟩ := exists_fall_le hearlier hlater
    (Moment.isIn_exact_of_unzoned hunzoned zone) hframe hjoined hinstants
  omega

/-- Occurrences on ascending dates, at one time of day and in one frame, are shown on dates that follow each other in
    this way. -/
theorem follows_of_toZone (hjoined : zone.IsJoined)
    (hdates : earlier.occurrence.civil.date.dayNumber < later.occurrence.civil.date.dayNumber)
    (htime : later.occurrence.civil.time = earlier.occurrence.civil.time)
    (hframe : later.occurrence.frame = earlier.occurrence.frame) : Follows zone earlier later := by
  refine ⟨fun hhome => ?_, fun haway => ?_, fun haway => ?_, fun hunzoned => ?_, fun hunzoned => ?_, ?_⟩
  · exact follows_at_home hearlier hlater hhome hframe hdates
  · exact before_iff_clockTick hearlier hlater haway hframe
  · exact same_iff_clockTick hearlier hlater haway hframe
  · have haway := Moment.isIn_exact_of_unzoned hunzoned zone
    have htick : earlier.clockTick zone later = _ := clockTick_of_unzoned hunzoned htime hframe
    have hfall := fall_le_of_unzoned hearlier hlater hjoined hunzoned hdates htime hframe
    refine Nat.not_lt.1 fun hbefore => ?_
    have hnegative := (before_iff_clockTick hearlier hlater haway hframe).1 hbefore
    unfold Civil.ticksPerDay at htick
    omega
  · have haway := Moment.isIn_exact_of_unzoned hunzoned zone
    have hfall := fall_le_of_unzoned hearlier hlater hjoined hunzoned hdates htime hframe
    have hday := earlier.shown.civil.time.ticks_lt
    rw [same_iff_clockTick hearlier hlater haway hframe, clockTick_of_unzoned hunzoned htime hframe]
    unfold Civil.ticksPerDay
    omega
  · intro hdiffer time hsame
    have hdates := Moment.date_of_render hsame
    exact hdiffer hdates

end

end Showing

/-- A value means a zone whose offset is derived from the wall clock if it is a name of that zone. -/
theorem ZoneDatabase.searchValue_eq_exact_iff {zones : ZoneDatabase} {value : Value} {zone : Zone} :
    zones.searchValue value = .ok (.exact zone) ↔
      ∃ name, value = .text name ∧ Text.allBlank name = false ∧ zones.named? name = some zone := by
  cases value with
  | text name =>
    simp only [searchValue, search, Value.text.injEq]
    constructor
    · intro hsearch
      split at hsearch
      · cases hsearch
      · next hblank =>
        cases hnamed : zones.named? name with
        | none =>
          rw [hnamed] at hsearch
          cases hloose : zones.looselyNamed? name <;> simp [hloose] at hsearch
        | some found =>
          rw [hnamed] at hsearch
          cases hsearch
          exact ⟨name, rfl, by simpa using hblank, hnamed⟩
    · rintro ⟨_, rfl, hblank, hnamed⟩
      rw [hblank, hnamed]
      rfl
  | _ => simp [searchValue]

theorem Projection.make_eq_exact_iff {zones : ZoneDatabase} {value clock : Value} {zone : Zone}
    {time : TimeOfDay} :
    make zones value clock = .ok ⟨.exact zone, time⟩ ↔
      wallClockOf clock = .ok time ∧ zones.searchValue value = .ok (.exact zone) := by
  unfold make
  cases wallClockOf clock with
  | error error => simp [bind, Except.bind]
  | ok read =>
    cases zones.searchValue value with
    | error error => simp [bind, Except.bind]
    | ok found => simp [bind, Except.bind, pure, Except.pure, and_comm]

namespace Rule

/-- The occurrences of a course share a time of day: its first place's, or midnight where weekdays of months
    are picked. -/
theorem time_of_mem_occurrences {rule : Rule} {cursor occurrence : Moment}
    (hmem : occurrence ∈ (rule.course cursor).filterMap rule.occurrenceAt?) :
    occurrence.civil.time = if rule.usesNthWeekday then .midnight else cursor.civil.time := by
  obtain ⟨place, hplace, hfound⟩ := List.mem_filterMap.1 hmem
  cases hnth : rule.usesNthWeekday with
  | true =>
    obtain ⟨date, rfl, -⟩ := occurrenceAt?_of_usesNthWeekday hnth hfound
    rfl
  | false =>
    rw [occurrenceAt?_eq_self hnth hfound, (time_frame_of_mem_course hplace).1]
    rfl

end Rule

namespace Plan

/-- What a run finds, each with the moment of a zone's clock that shows it. -/
def showings (plan : Plan) (zone : Zone) : Except CalendarError (List Showing) :=
  plan.run.occurrences.mapM fun occurrence =>
    (occurrence.toZone (.exact zone)).map fun shown => ⟨occurrence, shown⟩

/-- A projection into a zone writes what the zone's clock shows, at its time of day. -/
theorem mapM_project_exact (plan : Plan) (zone : Zone) (time : TimeOfDay) :
    plan.run.occurrences.mapM (Projection.project ⟨.exact zone, time⟩) =
      (plan.showings zone).map fun showings =>
        showings.map fun showing => (showing.shown.atClock time).render := by
  rw [showings, ← mapM_map]
  congr 1
  funext occurrence
  rw [Projection.project, Projection.pin, Moment.pin_exact]
  cases occurrence.toZone (.exact zone) <;> rfl

section

variable {plan : Plan} {zone : Zone} {showings : List Showing}
  (hshowings : plan.showings zone = .ok showings)
include hshowings

theorem occurrences_of_showings : showings.map Showing.occurrence = plan.run.occurrences := by
  refine map_of_mapM ?_ hshowings
  intro occurrence showing hshowing
  obtain ⟨shown, -, rfl⟩ := map_eq_ok_iff.1 hshowing
  rfl

/-- Each showing of a run follows every one before it. -/
theorem showings_pairwise_follows (hjoined : zone.IsJoined) : showings.Pairwise (Showing.Follows zone) := by
  have hordered : plan.run.occurrences.Pairwise fun earlier later =>
      earlier.civil.date.dayNumber < later.civil.date.dayNumber ∧
        later.civil.time = earlier.civil.time ∧ later.frame = earlier.frame := by
    refine List.Pairwise.sublist plan.occurrences_prefix.sublist ?_
    refine (plan.rule.occurrences_pairwise_dayNumber plan.start).imp_of_mem ?_
    intro earlier later hearlier hlater hdates
    refine ⟨hdates, ?_, ?_⟩
    · rw [Rule.time_of_mem_occurrences hearlier, Rule.time_of_mem_occurrences hlater]
    · rw [Rule.frame_of_mem_occurrences hearlier, Rule.frame_of_mem_occurrences hlater]
  refine pairwise_of_mapM hshowings ?_ hordered
  rintro earlier later first second ⟨hdates, htime, hframe⟩ hfirst hsecond
  obtain ⟨shownFirst, hearlier, rfl⟩ := map_eq_ok_iff.1 hfirst
  obtain ⟨shownSecond, hlater, rfl⟩ := map_eq_ok_iff.1 hsecond
  exact Showing.follows_of_toZone hearlier hlater hjoined hdates htime hframe

end

end Plan

namespace Rule

/-- A list that an expansion gives, in a zone whose offset is derived from the wall clock, shows each occurrence
    of the run at the asked time of day, on the date that the zone's clock has at the occurrence, and each
    date follows every one before it. -/
theorem expand_follows {zones : ZoneDatabase} (hsound : zones.IsSound) {rule : Rule} {name clock : Value}
    {zone : Zone} {time : TimeOfDay}
    (hproject : Projection.make zones name clock = .ok ⟨.exact zone, time⟩) {limit : Option Threshold}
    {bound : Option Moment} {limits : Limits} {texts : List String}
    (hexpand : (rule.expand zones name clock limit bound limits).value = .ok texts) :
    ∃ plan showings, Plan.make rule limit bound limits = .ok plan ∧
      plan.showings zone = .ok showings ∧ showings.map Showing.occurrence = plan.run.occurrences ∧
      texts = showings.map (fun showing => (showing.shown.atClock time).render) ∧
      showings.Pairwise (Showing.Follows zone) := by
  obtain ⟨-, hzone⟩ := Projection.make_eq_exact_iff.1 hproject
  obtain ⟨text, rfl, -, hnamed⟩ := ZoneDatabase.searchValue_eq_exact_iff.1 hzone
  have hmade := @Projection.makeWith_value_of_faithful zones _ ZoneMemory.empty_faithful (.text text) clock
  dsimp only [expand] at hexpand
  rw [hmade, hproject] at hexpand
  cases hmake : Plan.make rule limit bound limits with
  | error fault =>
    rw [hmake] at hexpand
    cases hexpand
  | ok plan =>
    rw [hmake] at hexpand
    dsimp only at hexpand
    rw [Plan.project_value, Plan.mapM_project_exact] at hexpand
    cases hshowings : plan.showings zone with
    | error cause =>
      rw [hshowings] at hexpand
      cases hexpand
    | ok showings =>
      rw [hshowings] at hexpand
      obtain ⟨_, -, rfl⟩ := map_eq_ok_iff.1 hexpand
      exact ⟨plan, showings, rfl, hshowings, Plan.occurrences_of_showings hshowings, rfl,
        Plan.showings_pairwise_follows hshowings (hsound.isJoined hnamed)⟩

/-- Every day at the start's time of day. -/
def everyDay (start : Moment) : Rule where
  start := some start

/-- Two successive occurrences of universal time fall on one day of New York: it begins before the first of them
    and, as its clocks go back, does not end before the second. -/
theorem everyDay_written_alike :
    ∃ start texts, Civil.ofFields 2024 11 3 4 30 0 0 = .ok start ∧
      ZoneDatabase.listed.searchValue (.text "America/New_York") = .ok (.exact Zone.Table.newYork) ∧
      ((everyDay (.utc start)).expand .listed (.text "America/New_York") (.text "09:00") (some (.number 2)) none
        {}).value = .ok texts ∧
      texts = ["2024-11-03T09:00:00.000-05:00", "2024-11-03T09:00:00.000-05:00"] ∧ ¬ texts.Nodup :=
  ⟨_, _, rfl, toOption_eq_some_iff.1 (by decide +kernel), toOption_eq_some_iff.1 (by decide +kernel),
    rfl, by decide +kernel⟩

/-- How the second of these days follows the first. -/
theorem everyDay_follows :
    ∃ start time texts plan showings, Civil.ofFields 2024 11 3 4 30 0 0 = .ok start ∧
      Projection.make .listed (.text "America/New_York") (.text "09:00") =
        .ok ⟨.exact Zone.Table.newYork, time⟩ ∧
      ((everyDay (.utc start)).expand .listed (.text "America/New_York") (.text "09:00") (some (.number 2)) none
        {}).value = .ok texts ∧
      Plan.make (everyDay (.utc start)) (some (.number 2)) none {} = .ok plan ∧
      plan.showings Zone.Table.newYork = .ok showings ∧ showings.length = 2 ∧
      showings.Pairwise (Showing.Follows Zone.Table.newYork) := by
  obtain ⟨start, hstart⟩ : ∃ start, Civil.ofFields 2024 11 3 4 30 0 0 = .ok start := ⟨_, rfl⟩
  obtain ⟨time, htime⟩ : ∃ time, TimeOfDay.ofFields 9 0 0 0 = .ok time := ⟨_, rfl⟩
  have hproject : Projection.make .listed (.text "America/New_York") (.text "09:00") =
      .ok ⟨.exact Zone.Table.newYork, time⟩ := by
    cases htime
    exact Projection.make_eq_exact_iff.2
      ⟨toOption_eq_some_iff.1 (by decide +kernel), toOption_eq_some_iff.1 (by decide +kernel)⟩
  have hexpand : ((everyDay (.utc start)).expand .listed (.text "America/New_York") (.text "09:00")
      (some (.number 2)) none {}).value =
        .ok ["2024-11-03T09:00:00.000-05:00", "2024-11-03T09:00:00.000-05:00"] := by
    cases hstart
    exact toOption_eq_some_iff.1 (by decide +kernel)
  obtain ⟨plan, showings, hmake, hshowings, -, htexts, hfollows⟩ :=
    expand_follows ZoneDatabase.isSound_listed hproject hexpand
  have hlength := congrArg List.length htexts
  rw [List.length_map] at hlength
  exact ⟨start, time, _, plan, showings, hstart, hproject, hexpand, hmake, hshowings, hlength.symm,
    hfollows⟩

end Rule

end Recurrence
