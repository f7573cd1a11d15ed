import Recurrence.Proofs.Moment.Compact
import Recurrence.Proofs.Moment.Pinning

namespace Recurrence

namespace Iso

/-- An offset is less than a day. -/
theorem natAbs_of_readOffset {text : List Char} {offset : Int} (hread : readOffset text = .ok offset) :
    offset.natAbs < 86400 := by
  -- Whichever way the minutes are found, they and the hours are tested before they are put together.
  have htested : ∀ {sign : Char} {hours : Nat} {found : Except Error Nat},
      (found >>= fun minutes =>
        if 59 < minutes then Except.error Error.offsetMinutes
        else if 23 < hours then .error .offsetHours
        else .ok (if sign = '-' then -((hours * 60 + minutes) * 60 : Int)
          else (hours * 60 + minutes) * 60)) = .ok offset → offset.natAbs < 86400 := by
    intro sign hours found hfound
    obtain ⟨minutes, -, htested⟩ := bind_eq_ok_iff.1 hfound
    split at htested
    · cases htested
    · split at htested
      · cases htested
      · cases htested
        split <;> omega
  unfold readOffset at hread
  split at hread
  · cases hread
    decide
  · split at hread
    · cases hread
    · split at hread
      · split at hread
        · obtain ⟨⟨hours, rest⟩, -, hread⟩ := bind_eq_ok_iff.1 hread
          dsimp only at hread
          split at hread
          · exact htested hread
          · -- The minutes may have a colon before them.
            split at hread
            all_goals
              split at hread
              · obtain ⟨group, -, hread⟩ := bind_eq_ok_iff.1 hread
                exact htested hread
              · exact htested hread
        · cases hread
      · cases hread

theorem natAbs_of_readClock {text : List Char} {clock : ClockFields} {offset : Int}
    (hread : readClock text = .ok clock) (hoffset : clock.offset = some offset) :
    offset.natAbs < 86400 := by
  have htested : ∀ {hour minute second micro : Nat} {found : Option Int},
      (if hour = 24 ∧ (minute ≠ 0 ∨ second ≠ 0 ∨ micro ≠ 0) then Except.error Error.pastMidnight
        else .ok ⟨hour, minute, second, micro, found⟩) = .ok clock → found = some offset := by
    intro hour minute second micro found htested
    split at htested
    · cases htested
    · cases htested
      exact hoffset
  unfold readClock at hread
  split at hread
  · cases hread
  · obtain ⟨⟨⟨hour, minute, second⟩, rest⟩, -, hread⟩ := bind_eq_ok_iff.1 hread
    dsimp only at hread
    split at hread
    · cases htested hread
    · split at hread
      · obtain ⟨found, hfound, hread⟩ := bind_eq_ok_iff.1 hread
        obtain ⟨read, hsame, rfl⟩ := map_eq_ok_iff.1 hfound
        cases htested hread
        exact natAbs_of_readOffset hsame
      · cases hread

theorem frame_of_momentOf {date : DateFields} {clock : ClockFields} {moment : Moment}
    (hmoment : momentOf date clock = .ok moment) : moment.frame = frameOf clock.offset := by
  unfold momentOf at hmoment
  obtain ⟨civil, -, hmoment⟩ := bind_eq_ok_iff.1 hmoment
  dsimp only at hmoment
  split at hmoment
  · obtain ⟨shifted, -, hmoment⟩ := bind_eq_ok_iff.1 hmoment
    cases hmoment
    rfl
  · cases hmoment
    rfl

/-- A literal means a floating moment, or one at a fixed offset of less than a day. -/
theorem frame_of_readMoment {text : List Char} {moment : Moment} (hread : readMoment text = .ok moment) :
    moment.frame = .floating ∨ ∃ offset : Int, moment.frame = .fixed offset ∧ offset.natAbs < 86400 := by
  unfold readMoment at hread
  obtain ⟨body, -, hread⟩ := bind_eq_ok_iff.1 hread
  obtain ⟨⟨date, rest⟩, -, hread⟩ := bind_eq_ok_iff.1 hread
  cases rest with
  | nil => exact Or.inl (frame_of_momentOf hread)
  | cons separator time =>
    obtain ⟨clock, hclock, hread⟩ := bind_eq_ok_iff.1 hread
    rw [frame_of_momentOf hread]
    cases hoffset : clock.offset with
    | none => exact Or.inl rfl
    | some offset => exact Or.inr ⟨offset, rfl, natAbs_of_readClock hclock hoffset⟩

end Iso

namespace Moment

/-- At an offset, the moment is on the first day of the calendar while universal time is still before it, or on
    the last day while universal time is already after it. -/
def IsOffCalendar (moment : Moment) (offset : Int) : Prop :=
  (moment.civil.date.dayNumber = 1 ∧ (moment.civil.time.ticks : Int) < offset * 1000000) ∨
    (moment.civil.date.dayNumber = Date.lastDayNumber ∧
      (Civil.ticksPerDay : Int) ≤ moment.civil.time.ticks - offset * 1000000)

theorem toUtc_fails_iff {moment : Moment} :
    (∃ cause, moment.toUtc = .error cause) ↔
      moment.instantTick < Civil.ticksPerDay ∨ (Civil.endTick : Int) ≤ moment.instantTick := by
  rw [toUtc, Civil.addSeconds, Civil.addTicks, Civil.ofTicks_fails_iff, instantTick, Int.neg_mul,
    Int.sub_eq_add_neg]

theorem toUtc_error {moment : Moment} {cause : CalendarError} (hfail : moment.toUtc = .error cause) :
    cause = .dateOutOfRange := by
  unfold toUtc Civil.addSeconds Civil.addTicks Civil.ofTicks at hfail
  split at hfail
  · cases hfail
  · cases hfail
    rfl

theorem exists_toUtc_of_floating {moment : Moment} (hframe : moment.frame = .floating) :
    ∃ utc, moment.toUtc = .ok utc := by
  refine ⟨moment.civil, toUtc_eq_ok_iff.2 ?_⟩
  simp [instantTick, offset?, hframe]

/-- With an offset of less than a day, only a moment of the first and of the last day leaves the calendar. -/
theorem toUtc_fails_iff_of_fixed {moment : Moment} {offset : Int} (hframe : moment.frame = .fixed offset)
    (hday : offset.natAbs < 86400) :
    (∃ cause, moment.toUtc = .error cause) ↔ moment.IsOffCalendar offset := by
  have htime := moment.civil.time.ticks_lt
  have hfirst := moment.civil.date.dayNumber_pos
  have hlast := moment.civil.date.dayNumber_le_last
  have hinstant : moment.instantTick = moment.civil.ticks - offset * 1000000 := by
    simp [instantTick, offset?, hframe]
  have hticks : moment.civil.ticks =
      moment.civil.date.dayNumber * Civil.ticksPerDay + moment.civil.time.ticks := rfl
  rw [toUtc_fails_iff, hinstant, hticks]
  unfold IsOffCalendar Civil.endTick Civil.ticksPerDay
  omega

end Moment

namespace ClockDefaults

/-- A field is missing or zero, and its default is a number that it cannot hold, in its range or not. -/
def Overflows (field : Nat) (default : Int) : Prop :=
  field = 0 ∧ (default < -2147483648 ∨ 2147483647 < default)

theorem holds_eq_false_iff {field : Nat} {default : Int} :
    holds field default = false ↔ Overflows field default := by
  unfold holds Overflows
  rw [Bool.or_eq_false_iff, decide_eq_false_iff_not, decide_eq_false_iff_not]
  omega

end ClockDefaults

open ClockDefaults (Overflows)

/-- One of the defaults that the fields of a compact literal get cannot be held. -/
def CompactFields.Overflow (fields : CompactFields) (defaults : ClockDefaults) : Prop :=
  Overflows fields.hour defaults.hour ∨ Overflows fields.minute defaults.minute ∨
    Overflows fields.second defaults.second

theorem ClockDefaults.fit_eq_false_iff {defaults : ClockDefaults} {fields : CompactFields} :
    defaults.fit fields = false ↔ fields.Overflow defaults := by
  unfold fit CompactFields.Overflow
  simp only [Bool.and_eq_false_iff, holds_eq_false_iff, or_assoc]

/-- Fields that mean a civil time hold their defaults. -/
theorem CompactFields.Means.not_overflow {fields : CompactFields} {defaults : ClockDefaults} {civil : Civil}
    (hmeans : fields.Means defaults civil) : ¬ fields.Overflow defaults := by
  have hhour := hmeans.hour
  have hminute := hmeans.minute
  have hsecond := hmeans.second
  have hhourLt := civil.time.hour_lt
  have hminuteLt := civil.time.minute_lt
  have hsecondLt := civil.time.second_lt
  rintro (⟨hzero, hlarge⟩ | ⟨hzero, hlarge⟩ | ⟨hzero, hlarge⟩)
  · rw [if_pos hzero] at hhour
    omega
  · rw [if_pos hzero] at hminute
    omega
  · rw [if_pos hzero] at hsecond
    omega

theorem compactOf_eq {text : String} {defaults : ClockDefaults} :
    compactOf (.text text) defaults =
      if (CompactFields.read? text.toList).all defaults.fit then
        (readCompact text defaults).mapError .literal
      else .error .defaultTooLarge := rfl

theorem all_fit_eq_false_iff {text : List Char} {defaults : ClockDefaults} :
    (CompactFields.read? text).all defaults.fit = false ↔
      ∃ fields, CompactFields.Begins text fields ∧ fields.Overflow defaults := by
  simp only [← CompactFields.read?_eq_some_iff, ← ClockDefaults.fit_eq_false_iff]
  cases CompactFields.read? text <;> simp

theorem compactOf_eq_ok_iff {text : String} {defaults : ClockDefaults} {civil : Civil} :
    compactOf (.text text) defaults = .ok civil ↔
      ∃ fields, CompactFields.Begins text.toList fields ∧ fields.Means defaults civil := by
  rw [← readCompact_eq_ok_iff, compactOf_eq]
  cases hfit : (CompactFields.read? text.toList).all defaults.fit with
  | true => rw [if_pos rfl, mapError_eq_ok_iff]
  | false =>
    obtain ⟨fields, hbegins, hover⟩ := all_fit_eq_false_iff.1 hfit
    refine iff_of_false (by simp) fun hread => ?_
    obtain ⟨other, hother, hmeans⟩ := readCompact_eq_ok_iff.1 hread
    rw [← CompactFields.read?_eq_some_iff] at hbegins hother
    rw [hbegins, Option.some.injEq] at hother
    exact (hother ▸ hmeans).not_overflow hover

theorem compactOf_eq_defaultTooLarge_iff {text : String} {defaults : ClockDefaults} :
    compactOf (.text text) defaults = .error .defaultTooLarge ↔
      ∃ fields, CompactFields.Begins text.toList fields ∧ fields.Overflow defaults := by
  rw [compactOf_eq, ← all_fit_eq_false_iff]
  cases (CompactFields.read? text.toList).all defaults.fit with
  | true =>
    refine iff_of_false ?_ (by simp)
    rw [if_pos rfl, mapError_eq_error_iff]
    rintro ⟨error, -, hsame⟩
    cases hsame
  | false => simp

/-- An error of a compact literal names the text. -/
theorem error_of_compactOf {text : String} {defaults : ClockDefaults} {error : TimeError}
    (hfail : compactOf (.text text) defaults = .error (.literal error)) :
    error = .civilUnreadable (.text text) ∨ ∃ cause, error = .civilInvalid text cause := by
  rw [compactOf_eq] at hfail
  split at hfail
  · obtain ⟨cause, hread, hsame⟩ := mapError_eq_error_iff.1 hfail
    cases hsame
    unfold readCompact at hread
    split at hread
    · cases hread
      exact Or.inl rfl
    · obtain ⟨cause, -, rfl⟩ := mapError_eq_error_iff.1 hread
      exact Or.inr ⟨cause, rfl⟩
  · cases hfail

section Instant

variable {text : String}

theorem readInstant_eq_ok_iff {utc : Civil} :
    readInstant text = .ok utc ↔
      ∃ moment, Iso.readMoment text.toList = .ok moment ∧ (utc.ticks : Int) = moment.instantTick := by
  unfold readInstant
  cases Iso.readMoment text.toList with
  | error cause => simp
  | ok moment =>
    dsimp only
    rw [mapError_eq_ok_iff, Moment.toUtc_eq_ok_iff]
    simp

theorem readInstant_eq_literal_iff {error : TimeError} :
    readInstant text = .error (.literal error) ↔
      ∃ cause, Iso.readMoment text.toList = .error cause ∧ error = .instantUnreadable text cause := by
  unfold readInstant
  cases Iso.readMoment text.toList with
  | error cause => simp [eq_comm]
  | ok moment =>
    refine iff_of_false ?_ (by simp)
    dsimp only
    rw [mapError_eq_error_iff]
    rintro ⟨cause, -, hsame⟩
    cases hsame

/-- A sound literal gives no instant exactly if its moment is off the calendar of universal time. -/
theorem readInstant_eq_calendar_iff {error : CalendarError} :
    readInstant text = .error (.calendar error) ↔
      error = .dateOutOfRange ∧ ∃ moment offset, Iso.readMoment text.toList = .ok moment ∧
        moment.frame = .fixed offset ∧ moment.IsOffCalendar offset := by
  unfold readInstant
  cases hread : Iso.readMoment text.toList with
  | error cause => simp
  | ok moment =>
    dsimp only
    rw [mapError_eq_error_iff]
    constructor
    · rintro ⟨cause, hfail, hsame⟩
      cases hsame
      refine ⟨Moment.toUtc_error hfail, moment, ?_⟩
      rcases Iso.frame_of_readMoment hread with hfloating | ⟨offset, hfixed, hday⟩
      · obtain ⟨utc, hutc⟩ := Moment.exists_toUtc_of_floating hfloating
        rw [hfail] at hutc
        cases hutc
      · exact ⟨offset, rfl, hfixed, (Moment.toUtc_fails_iff_of_fixed hfixed hday).1 ⟨error, hfail⟩⟩
    · rintro ⟨rfl, _, offset, hsame, hfixed, hoff⟩
      cases hsame
      rcases Iso.frame_of_readMoment hread with hfloating | ⟨same, hsame, hday⟩
      · rw [hfixed] at hfloating
        cases hfloating
      · rw [hfixed] at hsame
        cases hsame
        obtain ⟨cause, hfail⟩ := (Moment.toUtc_fails_iff_of_fixed hfixed hday).2 hoff
        exact ⟨cause, hfail, congrArg InstantError.calendar (Moment.toUtc_error hfail)⟩

end Instant

open Text (isBlank strip)

/-- The time of day that a reference time writes: that of a moment if it has a date. -/
def writtenTime (body : List Char) : Except Iso.Error TimeOfDay :=
  if hasDate body then (Iso.readMoment body).map (·.civil.time) else Iso.readTime body

theorem readWallClock_eq (text : String) :
    readWallClock text =
      if strip text.toList = [] then .error (.clockInvalid (.text text))
      else ((writtenTime (strip text.toList)).map TimeOfDay.wholeSecond).mapError (.clockUnreadable text) := by
  unfold readWallClock writtenTime
  dsimp only
  split
  · rfl
  · split
    · next hread =>
      rw [hread]
      rfl
    · next hread =>
      rw [hread]
      rfl

theorem readWallClock_eq_ok_iff {text : String} {time : TimeOfDay} :
    readWallClock text = .ok time ↔
      ∃ written, writtenTime (strip text.toList) = .ok written ∧ time = written.wholeSecond := by
  rw [readWallClock_eq]
  split
  · next hblank =>
    rw [hblank]
    refine iff_of_false (by simp) ?_
    rintro ⟨written, hwritten, -⟩
    cases hwritten
  · rw [mapError_eq_ok_iff, map_eq_ok_iff]
    simp only [eq_comm]

/-- An error of a reference time names the text: it is blank, or what stands between its blanks is no time. -/
theorem readWallClock_eq_error_iff {text : String} {error : TimeError} :
    readWallClock text = .error error ↔
      (error = .clockInvalid (.text text) ∧ ∀ c ∈ text.toList, isBlank c = true) ∨
        ∃ cause, error = .clockUnreadable text cause ∧ (∃ c ∈ text.toList, isBlank c = false) ∧
          writtenTime (strip text.toList) = .error cause := by
  rw [readWallClock_eq, ← Text.strip_eq_nil_iff]
  have hsome : strip text.toList ≠ [] ↔ ∃ c ∈ text.toList, isBlank c = false := by
    rw [ne_eq, Text.strip_eq_nil_iff]
    simp
  rw [← hsome]
  by_cases hblank : strip text.toList = []
  · simp [hblank, eq_comm]
  · rw [if_neg hblank, mapError_eq_error_iff]
    simp only [map_eq_error_iff, hblank, and_false, false_or, ne_eq, not_false_eq_true, true_and]
    simp only [eq_comm, and_comm]

/-- What the readers of literals give for any text, and how they fail. A text is read as an instant if it is
    an ISO 8601 literal, and the result is the same instant in universal time. If it is none, the error names
    it. A sound literal of the first or the last day of the calendar, whose offset reaches beyond that day,
    fails otherwise, with the calendar's own error. A reference time fails in no such way. Neither does a
    compact literal, unless a default for a field that it lacks is a number of more than 32 bits. -/
theorem literals_fail_iff (text : String) (defaults : ClockDefaults) :
    (∀ utc, readInstant text = .ok utc ↔
      ∃ moment, Iso.readMoment text.toList = .ok moment ∧ (utc.ticks : Int) = moment.instantTick) ∧
    (∀ utc, readInstant text = .ok utc → 1 ≤ utc.date.year ∧ utc.date.year ≤ 9999) ∧
    (∀ error, readInstant text = .error (.literal error) ↔
      ∃ cause, Iso.readMoment text.toList = .error cause ∧ error = .instantUnreadable text cause) ∧
    (∀ error, readInstant text = .error (.calendar error) ↔
      error = .dateOutOfRange ∧ ∃ moment offset, Iso.readMoment text.toList = .ok moment ∧
        moment.frame = .fixed offset ∧ moment.IsOffCalendar offset) ∧
    (∀ time, readWallClock text = .ok time ↔
      ∃ written, writtenTime (strip text.toList) = .ok written ∧ time = written.wholeSecond) ∧
    (∀ error, readWallClock text = .error error ↔
      (error = .clockInvalid (.text text) ∧ ∀ c ∈ text.toList, isBlank c = true) ∨
        ∃ cause, error = .clockUnreadable text cause ∧ (∃ c ∈ text.toList, isBlank c = false) ∧
          writtenTime (strip text.toList) = .error cause) ∧
    (∀ civil, compactOf (.text text) defaults = .ok civil ↔
      ∃ fields, CompactFields.Begins text.toList fields ∧ fields.Means defaults civil) ∧
    (∀ error, compactOf (.text text) defaults = .error (.literal error) →
      error = .civilUnreadable (.text text) ∨ ∃ cause, error = .civilInvalid text cause) ∧
    (compactOf (.text text) defaults = .error .defaultTooLarge ↔
      ∃ fields, CompactFields.Begins text.toList fields ∧ fields.Overflow defaults) :=
  ⟨fun _ => readInstant_eq_ok_iff, fun utc _ => ⟨utc.date.year_pos, utc.date.year_le⟩,
    fun _ => readInstant_eq_literal_iff, fun _ => readInstant_eq_calendar_iff,
    fun _ => readWallClock_eq_ok_iff, fun _ => readWallClock_eq_error_iff, fun _ => compactOf_eq_ok_iff,
    fun _ => error_of_compactOf, compactOf_eq_defaultTooLarge_iff⟩

/-- The first midnight of the calendar an hour east is no instant, and as a reference time it is midnight. -/
theorem firstMidnight_east :
    readInstant "0001-01-01T00:00:00+01:00" = .error (.calendar .dateOutOfRange) ∧
      readWallClock "0001-01-01T00:00:00+01:00" = .ok .midnight := by
  obtain ⟨-, -, -, hescapes, hread, -⟩ := literals_fail_iff "0001-01-01T00:00:00+01:00" .midnight
  refine ⟨(hescapes _).2 ⟨rfl, _, 3600, rfl, rfl, ?_⟩, (hread _).2 ⟨_, rfl, rfl⟩⟩
  exact Or.inl ⟨by decide, by decide⟩

end Recurrence
