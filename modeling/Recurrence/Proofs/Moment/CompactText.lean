import Recurrence.Proofs.Moment.Compact
import Recurrence.Proofs.Moment.Pinning
import Recurrence.Proofs.Text.Integer
import Recurrence.Proofs.Text.Rendering
import Recurrence.Rule.Written

namespace Recurrence

/-- A group of so many Latin digits that writes a number. -/
structure Text.IsNumeral (width : Nat) (group : List Char) (number : Nat) : Prop where
  length : group.length = width
  latin : ∀ c ∈ group, c.isDigit = true
  value : Nat.ofDigitChars 10 group 0 = number

namespace Text

theorem isDigit_of_mem_padded {width number : Nat} {c : Char} (hc : c ∈ (padded width number).toList) :
    c.isDigit = true := by
  rw [toList_padded, List.mem_append, List.mem_replicate] at hc
  rcases hc with ⟨-, rfl⟩ | hc
  · rfl
  · exact isDigit_of_mem_toDigits hc

theorem isNumeral_padded {width number : Nat} (hfits : (Nat.toDigits 10 number).length ≤ width) :
    IsNumeral width (padded width number).toList number where
  length := length_padded hfits
  latin := fun _ => isDigit_of_mem_padded
  value := ofDigitChars_padded width number

end Text

open Text (IsNumeral padded)

section Numeral

variable {width number : Nat} {group : List Char} (hgroup : IsNumeral width group number)

include hgroup

theorem Text.IsNumeral.startsWithNumber (rest : List Char) :
    StartsWithNumber width (group ++ rest) number rest :=
  ⟨group, rfl, hgroup.length, fun c hc => Text.isDigit_of_latin (hgroup.latin c hc), by
    rw [Text.ofDigits_of_latin hgroup.latin, hgroup.value]⟩

theorem Iso.number?_eq_some : number? group = some number := by
  have hfold : ∀ {digits : List Char}, (∀ c ∈ digits, c.isDigit = true) → ∀ start,
      digits.foldlM (fun number c => (Text.latinDigit? c).map (number * 10 + ·)) start =
        some (Nat.ofDigitChars 10 digits start) := by
    intro digits hdigits
    induction digits with
    | nil => exact fun _ => rfl
    | cons c rest ih =>
      intro start
      have hrest := ih (fun other hother => hdigits other (List.mem_cons_of_mem c hother))
      rw [List.foldlM_cons, Text.latinDigit?_of_latin (hdigits c List.mem_cons_self),
        Nat.ofDigitChars_cons, Nat.mul_comm 10]
      exact hrest _
  rw [number?, hfold hgroup.latin, hgroup.value]

/-- A group of digits is read off the start of a text. -/
theorem Iso.digits_append (rest : List Char) : digits width (group ++ rest) = .ok (number, rest) := by
  have htake : (group ++ rest).take width = group := List.take_left' hgroup.length
  have hdrop : (group ++ rest).drop width = rest := List.drop_left' hgroup.length
  unfold digits
  rw [htake, hdrop]
  dsimp only
  rw [Iso.number?_eq_some hgroup]
  exact if_pos hgroup.length

/-- A text that starts with a digit starts with no mark. -/
theorem Text.IsNumeral.exists_digit (hwidth : 0 < width) (rest : List Char) :
    ∃ c more, group ++ rest = c :: more ∧ ∀ mark : Char, mark.isDigit = false → c ≠ mark := by
  obtain ⟨c, more, rfl⟩ := List.exists_cons_of_length_pos (hgroup.length ▸ hwidth)
  refine ⟨c, more ++ rest, rfl, ?_⟩
  rintro mark hmark rfl
  rw [hgroup.latin c List.mem_cons_self] at hmark
  cases hmark

theorem Text.IsNumeral.append_ne_nil (hwidth : 0 < width) (rest : List Char) : group ++ rest ≠ [] := by
  obtain ⟨c, more, hsame, -⟩ := hgroup.exists_digit hwidth rest
  rw [hsame]
  exact List.cons_ne_nil c more

theorem Iso.atEnd_append (hwidth : 0 < width) (rest : List Char) : atEnd (group ++ rest) = false := by
  obtain ⟨c, more, hsame, hc⟩ := hgroup.exists_digit hwidth rest
  rw [hsame, atEnd, isOffsetMark]
  simp [hc]

theorem Iso.takeColon_append (hwidth : 0 < width) (rest : List Char) :
    takeColon (group ++ rest) = (false, group ++ rest) := by
  obtain ⟨c, more, hsame, hc⟩ := hgroup.exists_digit hwidth rest
  rw [hsame]
  unfold takeColon
  split
  · next hcolon => exact absurd (List.cons_eq_cons.1 hcolon).1 (hc ':' rfl)
  · rfl

theorem Iso.takeDash_append (hwidth : 0 < width) (rest : List Char) :
    takeDash (group ++ rest) = (false, group ++ rest) := by
  obtain ⟨c, more, hsame, hc⟩ := hgroup.exists_digit hwidth rest
  rw [hsame]
  unfold takeDash
  split
  · next hdash => exact absurd (List.cons_eq_cons.1 hdash).1 (hc '-' rfl)
  · rfl

end Numeral

section Groups

variable {year month day hour minute second : Nat}
  {yearGroup monthGroup dayGroup hourGroup minuteGroup secondGroup : List Char}

theorem Iso.readDate_numerals (hyear : IsNumeral 4 yearGroup year) (hmonth : IsNumeral 2 monthGroup month)
    (hday : IsNumeral 2 dayGroup day) (rest : List Char) :
    readDate (yearGroup ++ (monthGroup ++ (dayGroup ++ rest))) = .ok (⟨year, month, day⟩, rest) := by
  have hcalendar : calendarDate year (monthGroup ++ (dayGroup ++ rest)) = .ok (⟨year, month, day⟩, rest) := by
    unfold calendarDate
    rw [if_neg (hmonth.append_ne_nil Nat.zero_lt_two _), takeDash_append hmonth Nat.zero_lt_two]
    simp only [digits_append hmonth, bind, Except.bind, if_neg (hday.append_ne_nil Nat.zero_lt_two _),
      Bool.false_eq_true, if_false, if_true, digits_append hday]
  have hlength : ¬ (yearGroup ++ (monthGroup ++ (dayGroup ++ rest))).length < 4 := by
    rw [List.length_append, hyear.length]
    omega
  unfold readDate
  rw [if_neg hlength, digits_append hyear]
  simp only [bind, Except.bind, hcalendar]

theorem Iso.readClock_numerals (hhour : IsNumeral 2 hourGroup hour) (hminute : IsNumeral 2 minuteGroup minute)
    (hsecond : IsNumeral 2 secondGroup second) :
    readClock (hourGroup ++ (minuteGroup ++ (secondGroup ++ ['Z']))) =
      if hour = 24 ∧ (minute ≠ 0 ∨ second ≠ 0) then .error .pastMidnight
      else .ok ⟨hour, minute, second, 0, some 0⟩ := by
  have hgroups : readGroups (hourGroup ++ (minuteGroup ++ (secondGroup ++ ['Z']))) =
      .ok ((hour, minute, second), ['Z']) := by
    unfold readGroups
    rw [atEnd_append hhour Nat.zero_lt_two]
    simp only [digits_append hhour, bind, Except.bind, atEnd_append hminute Nat.zero_lt_two,
      takeColon_append hminute Nat.zero_lt_two, digits_append hminute,
      atEnd_append hsecond Nat.zero_lt_two, digits_append hsecond, Bool.false_eq_true, if_false, if_true]
  have hlength : ¬ (hourGroup ++ (minuteGroup ++ (secondGroup ++ ['Z']))).length < 2 := by
    rw [List.length_append, hhour.length]
    omega
  have hlate : (hour = 24 ∧ (minute ≠ 0 ∨ second ≠ 0 ∨ 0 ≠ 0)) ↔
      hour = 24 ∧ (minute ≠ 0 ∨ second ≠ 0) := by omega
  unfold readClock
  rw [if_neg hlength, hgroups, ← if_congr hlate rfl rfl]
  rfl

end Groups

/-- A compact literal in full, `YYYYMMDDTHHMMSSZ`, with the numbers that its groups of digits write. -/
def IsFullLiteral (text : List Char) (fields : CompactFields) : Prop :=
  ∃ year month day hour minute second, IsNumeral 4 year fields.year ∧ IsNumeral 2 month fields.month ∧
    IsNumeral 2 day fields.day ∧ IsNumeral 2 hour fields.hour ∧ IsNumeral 2 minute fields.minute ∧
    IsNumeral 2 second fields.second ∧
    text = year ++ (month ++ (day ++ 'T' :: (hour ++ (minute ++ (second ++ ['Z'])))))

namespace IsFullLiteral

section

variable {text : List Char} {fields : CompactFields} (hliteral : IsFullLiteral text fields)
include hliteral

theorem digit_or_mark {c : Char} (hc : c ∈ text) : c.isDigit = true ∨ c = 'T' ∨ c = 'Z' := by
  obtain ⟨_, _, _, _, _, _, hyear, hmonth, hday, hhour, hminute, hsecond, rfl⟩ := hliteral
  simp only [List.mem_append, List.mem_cons, List.not_mem_nil, or_false] at hc
  rcases hc with hc | hc | hc | rfl | hc | hc | hc | rfl
  · exact Or.inl (hyear.latin c hc)
  · exact Or.inl (hmonth.latin c hc)
  · exact Or.inl (hday.latin c hc)
  · exact Or.inr (Or.inl rfl)
  · exact Or.inl (hhour.latin c hc)
  · exact Or.inl (hminute.latin c hc)
  · exact Or.inl (hsecond.latin c hc)
  · exact Or.inr (Or.inr rfl)

theorem begins : CompactFields.Begins text fields := by
  obtain ⟨_, _, _, _, _, _, hyear, hmonth, hday, hhour, hminute, hsecond, rfl⟩ := hliteral
  have hclock : CompactFields.ClockBegins _ _ :=
    Or.inl ⟨_, rfl, .pair (hhour.startsWithNumber _) (.pair (hminute.startsWithNumber _)
      (.pair (hsecond.startsWithNumber ['Z']) .enough))⟩
  exact ⟨_, _, _, _, hyear.startsWithNumber _, hmonth.startsWithNumber _, hday.startsWithNumber _, hclock,
    rfl, rfl, rfl⟩

/-- As an ISO 8601 literal it is universal time. Hour 24 is midnight there, and nothing may come after it. -/
theorem readMoment : Iso.readMoment text =
    if fields.hour = 24 ∧ (fields.minute ≠ 0 ∨ fields.second ≠ 0) then .error .pastMidnight
    else Iso.momentOf ⟨fields.year, fields.month, fields.day⟩
      ⟨fields.hour, fields.minute, fields.second, 0, some 0⟩ := by
  have hascii : ∀ c ∈ text, c.toNat < 128 := by
    intro c hc
    rcases hliteral.digit_or_mark hc with hdigit | rfl | rfl
    · exact Nat.lt_trans (Text.toNat_of_latin hdigit).2 (by decide)
    · decide
    · decide
  have hplain : Iso.ascii text = .ok text := if_pos (by simpa using hascii)
  obtain ⟨_, _, _, _, _, _, hyear, hmonth, hday, hhour, hminute, hsecond, rfl⟩ := hliteral
  unfold Iso.readMoment
  rw [hplain]
  by_cases hlate : fields.hour = 24 ∧ (fields.minute ≠ 0 ∨ fields.second ≠ 0)
  · simp only [bind, Except.bind, Iso.readDate_numerals hyear hmonth hday,
      Iso.readClock_numerals hhour hminute hsecond, if_pos hlate]
  · simp only [bind, Except.bind, Iso.readDate_numerals hyear hmonth hday,
      Iso.readClock_numerals hhour hminute hsecond, if_neg hlate]

end

/-- Before hour 24 its fields are those of the instant. -/
theorem readInstant_eq_ok_iff {text : String} {fields : CompactFields}
    (hliteral : IsFullLiteral text.toList fields) (hearly : fields.hour ≠ 24) {civil : Civil} :
    readInstant text = .ok civil ↔
      Civil.ofFields fields.year fields.month fields.day fields.hour fields.minute fields.second 0 =
        .ok civil := by
  have hread := hliteral.readMoment
  rw [if_neg fun hlate => hearly hlate.1] at hread
  unfold readInstant
  rw [hread, Iso.momentOf]
  simp only [if_neg hearly]
  cases Civil.ofFields fields.year fields.month fields.day fields.hour fields.minute fields.second 0 with
  | error cause => exact iff_of_false nofun nofun
  | ok found =>
    change (Moment.utc found).toUtc.mapError _ = _ ↔ _
    rw [Moment.toUtc_of_utc rfl, mapError_eq_ok_iff, Except.ok.injEq, Except.ok.injEq]
    rfl

end IsFullLiteral

theorem Text.isNumeral_two {number : Nat} (hnumber : number < 100) :
    IsNumeral 2 (padded 2 number).toList number := by
  apply isNumeral_padded
  rwa [Nat.length_toDigits_le_iff (by decide) (by decide)]

theorem Date.isNumeral_month (date : Date) : IsNumeral 2 (padded 2 date.month).toList date.month :=
  Text.isNumeral_padded date.length_toDigits_fields.2.1

theorem Date.isNumeral_day (date : Date) : IsNumeral 2 (padded 2 date.day).toList date.day :=
  Text.isNumeral_padded date.length_toDigits_fields.2.2

theorem Date.length_toDigits_year_le_iff (date : Date) :
    (Nat.toDigits 10 date.year).length ≤ 3 ↔ date.year < 1000 :=
  Nat.length_toDigits_le_iff (by decide) (by decide)

/-- From year 1000 on a year has four digits without padding. -/
theorem Date.isNumeral_year {date : Date} (hyear : 1000 ≤ date.year) :
    IsNumeral 4 (Nat.toDigits 10 date.year) date.year where
  length := by
    have hlong := date.length_toDigits_year_le_iff
    have hshort := date.length_toDigits_fields.1
    omega
  latin := fun _ => Text.isDigit_of_mem_toDigits
  value := Nat.ofDigitChars_ten_toDigits

theorem TimeOfDay.isNumeral_hour (time : TimeOfDay) : IsNumeral 2 (padded 2 time.hour).toList time.hour :=
  Text.isNumeral_two (Nat.lt_trans time.hour_lt (by decide))

theorem TimeOfDay.isNumeral_minute (time : TimeOfDay) :
    IsNumeral 2 (padded 2 time.minute).toList time.minute :=
  Text.isNumeral_two (Nat.lt_trans time.minute_lt (by decide))

theorem TimeOfDay.isNumeral_second (time : TimeOfDay) :
    IsNumeral 2 (padded 2 time.second).toList time.second :=
  Text.isNumeral_two (Nat.lt_trans time.second_lt (by decide))

namespace Civil

/-- A civil time without its fraction of a second. -/
def wholeSecond (civil : Civil) : Civil := ⟨civil.date, civil.time.wholeSecond⟩

theorem wholeSecond_ticks (civil : Civil) : civil.wholeSecond.ticks = civil.ticks / 1000000 * 1000000 := by
  have hmicro := civil.time.micro_lt
  simp only [wholeSecond, TimeOfDay.wholeSecond, ticks, TimeOfDay.ticks, TimeOfDay.secondOfDay, ticksPerDay]
  omega

theorem toList_compact (civil : Civil) :
    civil.compact.toList = Nat.toDigits 10 civil.date.year ++ ((padded 2 civil.date.month).toList ++
      ((padded 2 civil.date.day).toList ++ 'T' :: ((padded 2 civil.time.hour).toList ++
        ((padded 2 civil.time.minute).toList ++ ((padded 2 civil.time.second).toList ++ ['Z']))))) := by
  simp [compact]

/-- From year 1000 on a civil time is written as a literal in full. -/
theorem isFullLiteral_compact {civil : Civil} (hyear : 1000 ≤ civil.date.year) :
    IsFullLiteral civil.compact.toList ⟨civil.date.year, civil.date.month, civil.date.day,
      civil.time.hour, civil.time.minute, civil.time.second⟩ :=
  ⟨_, _, _, _, _, _, Date.isNumeral_year hyear, civil.date.isNumeral_month, civil.date.isNumeral_day,
    civil.time.isNumeral_hour, civil.time.isNumeral_minute, civil.time.isNumeral_second,
    civil.toList_compact⟩

theorem mem_compact {civil : Civil} {c : Char} (hc : c ∈ civil.compact.toList) :
    c.isDigit = true ∨ c = 'T' ∨ c = 'Z' := by
  rw [toList_compact] at hc
  simp only [List.mem_append, List.mem_cons, List.not_mem_nil, or_false] at hc
  rcases hc with hc | hc | hc | rfl | hc | hc | hc | rfl
  · exact Or.inl (Text.isDigit_of_mem_toDigits hc)
  · exact Or.inl (Text.isDigit_of_mem_padded hc)
  · exact Or.inl (Text.isDigit_of_mem_padded hc)
  · exact Or.inr (Or.inl rfl)
  · exact Or.inl (Text.isDigit_of_mem_padded hc)
  · exact Or.inl (Text.isDigit_of_mem_padded hc)
  · exact Or.inl (Text.isDigit_of_mem_padded hc)
  · exact Or.inr (Or.inr rfl)

/-- An instant that was written is read back, to the second. -/
theorem readInstant_compact {civil : Civil} (hyear : 1000 ≤ civil.date.year) :
    readInstant civil.compact = .ok civil.wholeSecond := by
  have hhour : civil.time.hour ≠ 24 := Nat.ne_of_lt civil.time.hour_lt
  rw [(isFullLiteral_compact hyear).readInstant_eq_ok_iff hhour, ofFields_eq_ok_iff]
  exact ⟨Date.ofFields_eq_ok_iff.2 ⟨rfl, rfl, rfl⟩,
    TimeOfDay.ofFields_eq_ok_iff.2 ⟨rfl, rfl, rfl, rfl⟩⟩

/-- An earlier year is written with at most three digits, and the mark of the time of day stands where the
    last digit of the date should. -/
theorem not_begins_compact {civil : Civil} (hyear : civil.date.year < 1000) (fields : CompactFields) :
    ¬ CompactFields.Begins civil.compact.toList fields := by
  intro hbegins
  have hdate := hbegins.isDigit_of_mem_take
  have hfront : (Nat.toDigits 10 civil.date.year ++ ((padded 2 civil.date.month).toList ++
      (padded 2 civil.date.day).toList)).length < 8 := by
    have hdigits := civil.date.length_toDigits_year_le_iff.2 hyear
    rw [List.length_append, List.length_append, civil.date.isNumeral_month.length,
      civil.date.isNumeral_day.length]
    omega
  obtain ⟨more, hmore⟩ := Nat.exists_eq_add_of_lt hfront
  have hmark : 'T' ∈ civil.compact.toList.take 8 := by
    rw [toList_compact, ← List.append_assoc (padded 2 civil.date.month).toList, ← List.append_assoc, hmore,
      Nat.add_assoc, List.take_length_add_append, List.take_succ_cons]
    exact List.mem_append_right _ List.mem_cons_self
  have hnot := hdate 'T' hmark
  revert hnot
  decide

end Civil

end Recurrence
