import Recurrence.Expansion.Projection
import Recurrence.Proofs.Moment.CompactText
import Recurrence.Proofs.Moment.WallClock

namespace Recurrence

/-- A group of so many Latin digits. -/
def Text.IsDigits (width : Nat) (group : List Char) : Prop :=
  group.length = width ∧ ∀ c ∈ group, c.isDigit = true

theorem Text.IsNumeral.isDigits {width number : Nat} {group : List Char}
    (hgroup : IsNumeral width group number) : IsDigits width group :=
  ⟨hgroup.length, hgroup.latin⟩

open Text (IsDigits IsNumeral padded)

namespace Iso

section Groups

variable {year month day hour minute second : Nat}
  {yearGroup monthGroup dayGroup hourGroup minuteGroup secondGroup : List Char}

/-- A calendar date with dashes. -/
theorem readDate_dashed (hyear : IsNumeral 4 yearGroup year) (hmonth : IsNumeral 2 monthGroup month)
    (hday : IsNumeral 2 dayGroup day) (rest : List Char) :
    readDate (yearGroup ++ '-' :: (monthGroup ++ '-' :: (dayGroup ++ rest))) =
      .ok (⟨year, month, day⟩, rest) := by
  have hcalendar : calendarDate year ('-' :: (monthGroup ++ '-' :: (dayGroup ++ rest))) =
      .ok (⟨year, month, day⟩, rest) := by
    unfold calendarDate
    rw [if_neg (List.cons_ne_nil _ _)]
    simp only [takeDash, digits_append hmonth, bind, Except.bind, reduceCtorEq, if_false, if_true,
      digits_append hday]
  have hlength : ¬ (yearGroup ++ '-' :: (monthGroup ++ '-' :: (dayGroup ++ rest))).length < 4 := by
    rw [List.length_append, hyear.length]
    omega
  unfold readDate
  rw [if_neg hlength, digits_append hyear]
  simp only [bind, Except.bind, hcalendar]

/-- Hour, minute and second with colons. -/
theorem readGroups_colons (hhour : IsNumeral 2 hourGroup hour) (hminute : IsNumeral 2 minuteGroup minute)
    (hsecond : IsNumeral 2 secondGroup second) (rest : List Char) :
    readGroups (hourGroup ++ ':' :: (minuteGroup ++ ':' :: (secondGroup ++ rest))) =
      .ok ((hour, minute, second), rest) := by
  have hcolon : ∀ rest : List Char, atEnd (':' :: rest) = false := fun _ => rfl
  unfold readGroups
  rw [atEnd_append hhour Nat.zero_lt_two]
  simp only [digits_append hhour, bind, Except.bind, hcolon, takeColon, digits_append hminute,
    digits_append hsecond, Bool.false_eq_true, if_false, if_true]

end Groups

/-- A fraction of three zeros before a sign. -/
theorem readFraction_zeros {sign : Char} (hsign : sign = '+' ∨ sign = '-') (rest : List Char) :
    readFraction ('.' :: '0' :: '0' :: '0' :: sign :: rest) = (0, sign :: rest) := by
  rcases hsign with rfl | rfl
  · rfl
  · rfl

section Offset

/-- A `Z` stands alone. -/
theorem ne_zulu_of_long {text : List Char} (hlong : 1 < text.length) :
    ¬ (text = ['Z'] ∨ text = ['z']) := by
  rintro (rfl | rfl)
  · exact absurd hlong (by decide)
  · exact absurd hlong (by decide)

variable {hours minutes : Nat} {hoursGroup minutesGroup : List Char} {sign : Char}

/-- An offset of hours and minutes. -/
theorem readOffset_minutes (hsign : sign = '+' ∨ sign = '-') (hhours : IsNumeral 2 hoursGroup hours)
    (hminutes : IsNumeral 2 minutesGroup minutes) (hhoursLt : hours < 24) (hminutesLt : minutes < 60) :
    readOffset (sign :: (hoursGroup ++ ':' :: minutesGroup)) =
      .ok (if sign = '-' then -((hours * 60 + minutes) * 60 : Int) else (hours * 60 + minutes) * 60) := by
  have hlength : (sign :: (hoursGroup ++ ':' :: minutesGroup)).length = 6 := by
    rw [List.length_cons, List.length_append, List.length_cons, hhours.length, hminutes.length]
  have hgroup := digits_append hminutes []
  rw [List.append_nil] at hgroup
  unfold readOffset
  rw [if_neg (ne_zulu_of_long (by omega)), if_neg (by omega)]
  dsimp only
  rw [if_pos hsign, digits_append hhours]
  simp only [bind, Except.bind, List.cons_ne_nil, if_false, List.head?_cons, if_true, List.drop_one,
    List.tail_cons, hminutes.length, hgroup, pure, Except.pure]
  rw [if_neg (by omega), if_neg (by omega)]

/-- Seconds after them are too much. -/
theorem readOffset_seconds {seconds : Nat} {secondsGroup : List Char}
    (hhours : IsNumeral 2 hoursGroup hours) (hminutes : IsNumeral 2 minutesGroup minutes)
    (hseconds : IsNumeral 2 secondsGroup seconds) :
    readOffset (sign :: (hoursGroup ++ ':' :: (minutesGroup ++ ':' :: secondsGroup))) =
      .error .offsetLength := by
  have hlength : (sign :: (hoursGroup ++ ':' :: (minutesGroup ++ ':' :: secondsGroup))).length = 9 := by
    simp only [List.length_cons, List.length_append, hhours.length, hminutes.length, hseconds.length]
  unfold readOffset
  rw [if_neg (ne_zulu_of_long (by omega)), if_pos (by omega)]

end Offset

end Iso

/-- The hours of an offset's size. -/
def offsetHours (offset : Int) : Nat := offset.natAbs / 3600

/-- The minutes after its hours. -/
def offsetMinutes (offset : Int) : Nat := offset.natAbs / 60 % 60

/-- The sign of an offset; no offset counts as east. -/
def offsetSign (offset : Int) : Char := if offset < 0 then '-' else '+'

theorem offsetSign_eq_or (offset : Int) : offsetSign offset = '+' ∨ offsetSign offset = '-' := by
  unfold offsetSign
  split
  · exact Or.inr rfl
  · exact Or.inl rfl

theorem toList_offsetText (offset : Int) :
    (offsetText offset).toList = offsetSign offset :: ((padded 2 (offsetHours offset)).toList ++
      ':' :: ((padded 2 (offsetMinutes offset)).toList ++
        if offset % 60 = 0 then [] else ':' :: (padded 2 (offset.natAbs % 60)).toList)) := by
  have hseconds : offset.natAbs % 60 = 0 ↔ offset % 60 = 0 := by omega
  unfold offsetText offsetSign offsetHours offsetMinutes
  simp only [hseconds, String.toList_append]
  by_cases hwest : offset < 0
  · by_cases hwhole : offset % 60 = 0
    · simp [hwest, hwhole]
    · simp [hwest, hwhole]
  · by_cases hwhole : offset % 60 = 0
    · simp [hwest, hwhole]
    · simp [hwest, hwhole]

theorem Moment.toList_render {moment : Moment} (hwhole : moment.civil.time.micro = 0) {offset : Int}
    (hoffset : moment.offset? = some offset) :
    moment.render.toList = (padded 4 moment.civil.date.year).toList ++
      '-' :: ((padded 2 moment.civil.date.month).toList ++
        '-' :: ((padded 2 moment.civil.date.day).toList ++
          'T' :: ((padded 2 moment.civil.time.hour).toList ++
            ':' :: ((padded 2 moment.civil.time.minute).toList ++
              ':' :: ((padded 2 moment.civil.time.second).toList ++
                '.' :: '0' :: '0' :: '0' :: (offsetText offset).toList))))) := by
  have hmillis : padded 3 (0 / 1000) = "000" := rfl
  simp [render, Date.iso, TimeOfDay.clock, offsetSuffix, hwhole, hoffset, hmillis]

/-- An offset of whole minutes is made up of its hours and minutes. -/
theorem offset_of_parts {offset : Int} (hwhole : offset % 60 = 0) :
    (if offsetSign offset = '-' then -((offsetHours offset * 60 + offsetMinutes offset) * 60 : Int)
      else (offsetHours offset * 60 + offsetMinutes offset) * 60) = offset := by
  unfold offsetSign offsetHours offsetMinutes
  by_cases hwest : offset < 0
  · rw [if_pos hwest, if_pos rfl]
    omega
  · rw [if_neg hwest, if_neg (by decide)]
    omega

theorem isNumeral_offsetHours {offset : Int} (hday : offset.natAbs < 86400) :
    IsNumeral 2 (padded 2 (offsetHours offset)).toList (offsetHours offset) ∧
      offsetHours offset < 24 := by
  have hhours : offsetHours offset < 24 := by
    unfold offsetHours
    omega
  exact ⟨Text.isNumeral_two (by omega), hhours⟩

theorem isNumeral_offsetMinutes (offset : Int) :
    IsNumeral 2 (padded 2 (offsetMinutes offset)).toList (offsetMinutes offset) ∧
      offsetMinutes offset < 60 := by
  have hminutes : offsetMinutes offset < 60 := Nat.mod_lt _ (by decide)
  exact ⟨Text.isNumeral_two (by omega), hminutes⟩

theorem Date.isNumeral_padded_year (date : Date) : IsNumeral 4 (padded 4 date.year).toList date.year :=
  Text.isNumeral_padded date.length_toDigits_fields.1

theorem Iso.readOffset_offsetText {offset : Int} (hday : offset.natAbs < 86400) :
    readOffset (offsetText offset).toList =
      if offset % 60 = 0 then .ok offset else .error .offsetLength := by
  obtain ⟨hhours, hhoursLt⟩ := isNumeral_offsetHours hday
  obtain ⟨hminutes, hminutesLt⟩ := isNumeral_offsetMinutes offset
  rw [toList_offsetText]
  by_cases hwhole : offset % 60 = 0
  · rw [if_pos hwhole, if_pos hwhole, List.append_nil,
      readOffset_minutes (offsetSign_eq_or offset) hhours hminutes hhoursLt hminutesLt,
      offset_of_parts hwhole]
  · have hseconds : offset.natAbs % 60 < 100 := by omega
    rw [if_neg hwhole, if_neg hwhole, readOffset_seconds hhours hminutes (Text.isNumeral_two hseconds)]

theorem Iso.ascii_padded (width number : Nat) : ∀ c ∈ (padded width number).toList, c.toNat < 128 :=
  fun _ hc => Nat.lt_trans (Text.toNat_of_latin (Text.isDigit_of_mem_padded hc)).2 (by decide)

theorem Iso.ascii_offsetText (offset : Int) : ∀ c ∈ (offsetText offset).toList, c.toNat < 128 := by
  have hsign : (offsetSign offset).toNat < 128 := by
    rcases offsetSign_eq_or offset with hsign | hsign
    · rw [hsign]
      decide
    · rw [hsign]
      decide
  have hcolon : ':'.toNat < 128 := by decide
  rw [toList_offsetText]
  split
  · simp only [List.forall_mem_cons, List.forall_mem_append]
    exact ⟨hsign, ascii_padded _ _, hcolon, ascii_padded _ _, List.forall_mem_nil _⟩
  · simp only [List.forall_mem_cons, List.forall_mem_append]
    exact ⟨hsign, ascii_padded _ _, hcolon, ascii_padded _ _, hcolon, ascii_padded _ _⟩

/-- The time of day of a text, with the offset that follows it. -/
theorem Iso.readClock_offsetText {hour minute second : Nat}
    {hourGroup minuteGroup secondGroup : List Char} (hhour : IsNumeral 2 hourGroup hour)
    (hminute : IsNumeral 2 minuteGroup minute) (hsecond : IsNumeral 2 secondGroup second)
    (hhourLt : hour < 24) {offset : Int} (hday : offset.natAbs < 86400) :
    readClock (hourGroup ++ ':' :: (minuteGroup ++ ':' :: (secondGroup ++
        '.' :: '0' :: '0' :: '0' :: (offsetText offset).toList))) =
      if offset % 60 = 0 then .ok ⟨hour, minute, second, 0, some offset⟩ else .error .offsetLength := by
  have hlength : ¬ (hourGroup ++ ':' :: (minuteGroup ++ ':' :: (secondGroup ++
      '.' :: '0' :: '0' :: '0' :: (offsetText offset).toList))).length < 2 := by
    rw [List.length_append, hhour.length]
    omega
  obtain ⟨more, hmore⟩ : ∃ more, (offsetText offset).toList = offsetSign offset :: more :=
    ⟨_, toList_offsetText offset⟩
  have hfraction : readFraction ('.' :: '0' :: '0' :: '0' :: (offsetText offset).toList) =
      (0, (offsetText offset).toList) := by
    rw [hmore, readFraction_zeros (offsetSign_eq_or offset)]
  have hend : atEnd (offsetText offset).toList = true := by
    rw [hmore]
    rcases offsetSign_eq_or offset with hsign | hsign
    · rw [hsign]
      rfl
    · rw [hsign]
      rfl
  have hsome : (offsetText offset).toList ≠ [] := by
    rw [hmore]
    exact List.cons_ne_nil _ _
  unfold readClock
  rw [if_neg hlength, readGroups_colons hhour hminute hsecond]
  simp only [bind, Except.bind, hfraction, if_neg hsome, if_pos hend, readOffset_offsetText hday]
  by_cases hwhole : offset % 60 = 0
  · simp only [if_pos hwhole, Except.map, ne_eq, not_true_eq_false]
    rw [if_neg (by omega)]
  · simp only [if_neg hwhole, Except.map]

/-- A text of the form `YYYY-MM-DDTHH:MM:SS.000+HH:MM`, with a sign of either kind. -/
def IsStamp (text : String) : Prop :=
  ∃ year month day hour minute second sign hours minutes,
    IsDigits 4 year ∧ IsDigits 2 month ∧ IsDigits 2 day ∧ IsDigits 2 hour ∧ IsDigits 2 minute ∧
      IsDigits 2 second ∧ (sign = '+' ∨ sign = '-') ∧ IsDigits 2 hours ∧ IsDigits 2 minutes ∧
      text.toList = year ++ '-' :: (month ++ '-' :: (day ++ 'T' :: (hour ++ ':' :: (minute ++ ':' ::
        (second ++ '.' :: '0' :: '0' :: '0' :: sign :: (hours ++ ':' :: minutes))))))

theorem IsStamp.length {text : String} (hstamp : IsStamp text) : text.toList.length = 29 := by
  obtain ⟨year, month, day, hour, minute, second, sign, hours, minutes, hyear, hmonth, hday, hhour,
    hminute, hsecond, -, hhours, hminutes, htext⟩ := hstamp
  simp only [htext, List.length_append, List.length_cons, hyear.1, hmonth.1, hday.1, hhour.1, hminute.1,
    hsecond.1, hhours.1, hminutes.1]

namespace Moment

section

variable {moment : Moment} (hmicro : moment.civil.time.micro = 0) {offset : Int}
  (hoffset : moment.offset? = some offset) (hday : offset.natAbs < 86400)

include hmicro hoffset

theorem ascii_render : Iso.ascii moment.render.toList = .ok moment.render.toList := by
  have hchars : ∀ c ∈ moment.render.toList, c.toNat < 128 := by
    rw [toList_render hmicro hoffset]
    simp only [List.forall_mem_append, List.forall_mem_cons]
    exact ⟨Iso.ascii_padded _ _, by decide, Iso.ascii_padded _ _, by decide, Iso.ascii_padded _ _,
      by decide, Iso.ascii_padded _ _, by decide, Iso.ascii_padded _ _, by decide,
      Iso.ascii_padded _ _, by decide, by decide, by decide, by decide, Iso.ascii_offsetText offset⟩
  exact if_pos (by simpa using hchars)

include hday

/-- A written moment is read as the civil time that it shows, at its offset; seconds in the offset are
    refused. -/
theorem readMoment_render : Iso.readMoment moment.render.toList =
    if offset % 60 = 0 then .ok ⟨moment.civil, .fixed offset, false⟩ else .error .offsetLength := by
  have hhour : moment.civil.time.hour ≠ 24 := Nat.ne_of_lt moment.civil.time.hour_lt
  have hcivil : Civil.ofFields moment.civil.date.year moment.civil.date.month moment.civil.date.day
      moment.civil.time.hour moment.civil.time.minute moment.civil.time.second 0 = .ok moment.civil :=
    Civil.ofFields_eq_ok_iff.2 ⟨Date.ofFields_eq_ok_iff.2 ⟨rfl, rfl, rfl⟩,
      TimeOfDay.ofFields_eq_ok_iff.2 ⟨rfl, rfl, rfl, hmicro⟩⟩
  have hclock := Iso.readClock_offsetText moment.civil.time.isNumeral_hour
    moment.civil.time.isNumeral_minute moment.civil.time.isNumeral_second moment.civil.time.hour_lt hday
  have hdate := Iso.readDate_dashed moment.civil.date.isNumeral_padded_year
    moment.civil.date.isNumeral_month moment.civil.date.isNumeral_day
  unfold Iso.readMoment
  rw [ascii_render hmicro hoffset, toList_render hmicro hoffset]
  simp only [bind, Except.bind, hdate, hclock]
  by_cases hwhole : offset % 60 = 0
  · simp only [if_pos hwhole, Iso.momentOf, if_neg hhour, hcivil]
    rfl
  · simp only [if_neg hwhole]

/-- The reader of instants gives exactly the instant, and none for an offset with seconds. -/
theorem readInstant_render_eq_ok_iff {utc : Civil} :
    readInstant moment.render = .ok utc ↔ moment.toUtc = .ok utc ∧ offset % 60 = 0 := by
  have hread := readMoment_render hmicro hoffset hday
  unfold readInstant
  by_cases hwhole : offset % 60 = 0
  · rw [if_pos hwhole] at hread
    have hsame : (⟨moment.civil, .fixed offset, false⟩ : Moment).toUtc = moment.toUtc := by
      rw [toUtc, toUtc, hoffset]
      rfl
    rw [hread]
    dsimp only
    rw [mapError_eq_ok_iff, hsame, and_iff_left hwhole]
  · rw [if_neg hwhole] at hread
    rw [hread]
    refine iff_of_false ?_ fun hboth => hwhole hboth.2
    intro hrefused
    cases hrefused

/-- Exactly the offsets of whole minutes are written as hours and minutes. -/
theorem isStamp_render_iff : IsStamp moment.render ↔ offset % 60 = 0 := by
  have htext := toList_render hmicro hoffset
  rw [toList_offsetText] at htext
  have hhours := (isNumeral_offsetHours hday).1
  have hminutes := (isNumeral_offsetMinutes offset).1
  constructor
  · intro hstamp
    refine Decidable.byContradiction fun hwhole => ?_
    have hseconds : IsNumeral 2 (padded 2 (offset.natAbs % 60)).toList (offset.natAbs % 60) :=
      Text.isNumeral_two (by omega)
    have hlength := hstamp.length
    rw [htext, if_neg hwhole] at hlength
    simp only [List.length_append, List.length_cons, moment.civil.date.isNumeral_padded_year.length,
      moment.civil.date.isNumeral_month.length, moment.civil.date.isNumeral_day.length,
      moment.civil.time.isNumeral_hour.length, moment.civil.time.isNumeral_minute.length,
      moment.civil.time.isNumeral_second.length, hhours.length, hminutes.length,
      hseconds.length] at hlength
    omega
  · intro hwhole
    rw [if_pos hwhole, List.append_nil] at htext
    exact ⟨_, _, _, _, _, _, _, _, _, moment.civil.date.isNumeral_padded_year.isDigits,
      moment.civil.date.isNumeral_month.isDigits, moment.civil.date.isNumeral_day.isDigits,
      moment.civil.time.isNumeral_hour.isDigits, moment.civil.time.isNumeral_minute.isDigits,
      moment.civil.time.isNumeral_second.isDigits, offsetSign_eq_or offset, hhours.isDigits,
      hminutes.isDigits, htext⟩

end

/-- Pinning gives a whole second and one of the offsets of a zone that has a name. -/
theorem offset_of_pin {zones : ZoneDatabase} (hsound : zones.IsSound) {moment pinned : Moment}
    {target : TargetZone} (hnamed : target.IsNamed zones) (hknown : moment.frame.IsKnown zones)
    {time : TimeOfDay} (hpinned : moment.pin target time = .ok pinned) :
    pinned.civil.time.micro = 0 ∧ ∃ offset, pinned.offset? = some offset ∧ offset.natAbs < 86400 ∧
      ((∃ zone, target = .lenient zone) → offset % 60 = 0) := by
  cases target with
  | exact zone =>
    rw [pin_exact] at hpinned
    obtain ⟨shown, hshown, rfl⟩ := map_eq_ok_iff.1 hpinned
    obtain ⟨here, hframe, name, hhere⟩ :
        ∃ here, shown.frame = .zoned here ∧ (TargetZone.exact here).IsNamed zones := by
      cases hhome : moment.isIn (.exact zone) with
      | false =>
        obtain ⟨-, -, hframe, -⟩ := toZone_exact_eq_ok hhome hshown
        exact ⟨zone, hframe, hnamed⟩
      | true =>
        rw [toZone_exact_of_isIn hhome] at hshown
        cases hshown
        obtain ⟨here, hframe, -⟩ := isIn_exact_iff.1 hhome
        rw [hframe] at hknown
        exact ⟨here, hframe, hknown⟩
    have hoffset : (shown.atClock time).offset? =
        some (here.phaseOf (shown.atClock time).civil shown.fold).offset := by
      rw [offset?, atClock, hframe]
    have hbound := (hsound.isJoined hhere).offsets _
      (here.phaseOf_offset_mem (shown.atClock time).civil shown.fold)
    refine ⟨rfl, _, hoffset, by omega, ?_⟩
    rintro ⟨_, htarget⟩
    cases htarget
  | lenient zone =>
    obtain ⟨shown, reading, -, hplace, rfl⟩ := pin_lenient_eq_ok hsound hknown hnamed hpinned
    obtain ⟨name, hzone⟩ := hnamed
    obtain ⟨hge, hle, hwhole⟩ := MinuteZone.offset_of_place (hsound.isRegular hzone) hplace
    exact ⟨MinuteZone.micro_of_place hplace, reading.offset, rfl, by omega, fun _ => hwhole⟩

end Moment

namespace Projection

/-- A projected text has the form of a stamp, and the reader of instants gives the instant of the pinned
    moment, exactly if the offset there is one of whole minutes; in a zone with a short table it always
    is. -/
theorem project_reads_back {zones : ZoneDatabase} (hsound : zones.IsSound) {name : String}
    {target : TargetZone} (hfound : zones.search name = .ok target) {moment : Moment}
    (hknown : moment.frame.IsKnown zones) {time : TimeOfDay} {text : String}
    (hproject : Projection.project ⟨target, time⟩ moment = .ok text) :
    ∃ pinned offset, Projection.pin ⟨target, time⟩ moment = .ok pinned ∧ pinned.offset? = some offset ∧
      (IsStamp text ↔ offset % 60 = 0) ∧
      (∀ utc, readInstant text = .ok utc ↔ pinned.toUtc = .ok utc ∧ offset % 60 = 0) ∧
      ((∃ zone, target = .lenient zone) → offset % 60 = 0) := by
  obtain ⟨pinned, hpinned, rfl⟩ := map_eq_ok_iff.1 hproject
  have hnamed := ZoneDatabase.isNamed_of_search hfound
  obtain ⟨hmicro, offset, hoffset, hday, hlenient⟩ := Moment.offset_of_pin hsound hnamed hknown hpinned
  exact ⟨pinned, offset, hpinned, hoffset, Moment.isStamp_render_iff hmicro hoffset hday,
    fun _ => Moment.readInstant_render_eq_ok_iff hmicro hoffset hday, hlenient⟩

/-- Nine o'clock. -/
def nineOClock : TimeOfDay := { TimeOfDay.midnight with hour := 9, hour_lt := by decide }

/-- Before London kept a standard time its clocks were 75 seconds behind, and what is written with that
    offset cannot be read back. -/
theorem project_in_early_london :
    ∃ noon text, Civil.ofFields 1800 6 1 12 0 0 0 = .ok noon ∧
      ZoneDatabase.listed.search "Europe/London" = .ok (.exact Zone.Table.london) ∧
      (Moment.utc noon).frame.IsKnown .listed ∧
      Projection.project ⟨.exact Zone.Table.london, nineOClock⟩ (.utc noon) = .ok text ∧
      text = "1800-06-01T09:00:00.000-00:01:15" ∧ ¬ IsStamp text ∧ ∀ utc, readInstant text ≠ .ok utc := by
  have hfound : ZoneDatabase.listed.search "Europe/London" = .ok (.exact Zone.Table.london) :=
    toOption_eq_some_iff.1 (by decide +kernel)
  obtain ⟨noon, pinned, hnoon, hpinned, hoffset, htext⟩ : ∃ noon pinned,
      Civil.ofFields 1800 6 1 12 0 0 0 = .ok noon ∧
        (Moment.utc noon).pin (.exact Zone.Table.london) nineOClock = .ok pinned ∧
        pinned.offset? = some (-75) ∧ pinned.render = "1800-06-01T09:00:00.000-00:01:15" :=
    ⟨_, _, rfl, rfl, by decide +kernel, by decide +kernel⟩
  have hknown : (Moment.utc noon).frame.IsKnown .listed := trivial
  have hproject :
      Projection.project ⟨.exact Zone.Table.london, nineOClock⟩ (.utc noon) = .ok pinned.render :=
    map_eq_ok_iff.2 ⟨pinned, hpinned, rfl⟩
  obtain ⟨same, offset, hsame, hsameOffset, hstamp, hread, -⟩ :=
    project_reads_back ZoneDatabase.isSound_listed hfound hknown hproject
  rw [Projection.pin, hpinned, Except.ok.injEq] at hsame
  rw [← hsame, hoffset, Option.some.injEq] at hsameOffset
  have hseconds : ¬ offset % 60 = 0 := by
    rw [← hsameOffset]
    decide
  exact ⟨noon, _, hnoon, hfound, hknown, hproject, htext, fun h => hseconds (hstamp.1 h),
    fun utc h => hseconds ((hread utc).1 h).2⟩

end Projection

end Recurrence
