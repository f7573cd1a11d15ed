import Recurrence.Proofs.Moment.ClockText
import Recurrence.Proofs.Moment.WallClock

namespace Recurrence

open Text (IsDigits IsNumeral)

theorem hasDate_iff {text : List Char} : hasDate text = true ↔ 'T' ∈ text ∨ '-' ∈ text.take 8 := by
  unfold hasDate
  rw [Bool.or_eq_true, List.contains_iff_mem, List.contains_iff_mem]

namespace Iso

theorem ascii_eq_ok_iff {text found : List Char} :
    ascii text = .ok found ↔ (∀ c ∈ text, c.toNat < 128) ∧ found = text := by
  unfold ascii
  split
  · next hascii =>
    have hall : ∀ c ∈ text, c.toNat < 128 := by simpa using hascii
    rw [Except.ok.injEq, and_iff_right hall]
    exact eq_comm
  · next hforeign =>
    refine iff_of_false (by simp) fun hboth => hforeign ?_
    simpa using hboth.1

theorem takeDash_of_head?_ne {text : List Char} (hdash : text.head? ≠ some '-') :
    takeDash text = (false, text) := by
  unfold takeDash
  split
  · exact absurd rfl hdash
  · rfl

section

variable {year : Nat} {text rest : List Char} (hdash : text.head? ≠ some '-')
include hdash

/-- A calendar date without dashes goes on with four digits. -/
theorem exists_digits_of_calendarDate {date : DateFields}
    (hread : calendarDate year text = .ok (date, rest)) (hsome : text ≠ []) :
    ∃ three more, IsDigits 3 three ∧ text = three ++ more := by
  unfold calendarDate at hread
  rw [takeDash_of_head?_ne hdash] at hread
  split at hread
  · next hnone => exact absurd hnone hsome
  · obtain ⟨⟨month, behind⟩, hmonth, hread⟩ := bind_eq_ok_iff.1 hread
    simp only [Bool.false_eq_true, if_false, if_true] at hread
    split at hread
    · cases hread
    · obtain ⟨⟨day, final⟩, hday, -⟩ := bind_eq_ok_iff.1 hread
      obtain ⟨monthGroup, rfl, hmonthGroup⟩ := digits_eq_ok_iff.1 hmonth
      obtain ⟨dayGroup, rfl, hdayGroup⟩ := digits_eq_ok_iff.1 hday
      obtain ⟨first, second, rfl, hfirst, -⟩ := Text.IsDigits.exists_append 1 hdayGroup.isDigits
      refine ⟨monthGroup ++ first, second ++ final, hmonthGroup.isDigits.append hfirst, ?_⟩
      rw [List.append_assoc, List.append_assoc]

/-- A date of a rarer kind without dashes goes on with a `W` or three digits. -/
theorem exists_digits_of_rarerDate {date : Date} (hread : rarerDate year text = .ok (date, rest)) :
    text.head? = some 'W' ∨ ∃ three more, IsDigits 3 three ∧ text = three ++ more := by
  unfold rarerDate at hread
  rw [takeDash_of_head?_ne hdash] at hread
  dsimp only at hread
  split at hread
  · exact Or.inl rfl
  · unfold ordinalDate at hread
    split at hread
    · cases hread
    · obtain ⟨⟨day, final⟩, hday, -⟩ := bind_eq_ok_iff.1 hread
      obtain ⟨group, htext, hgroup⟩ := digits_eq_ok_iff.1 hday
      exact Or.inr ⟨group, final, hgroup.isDigits, htext⟩

end

/-- A time of day that begins with four digits does not go on with a `W`, nor with three more digits. -/
theorem readClock_fails_of_date {year text : List Char} (hyear : IsDigits 4 year)
    (htext : text.head? = some 'W' ∨ ∃ three more, IsDigits 3 three ∧ text = three ++ more) :
    ∃ cause, readClock (year ++ text) = .error cause := by
  obtain ⟨hour, minute, rfl, hhour, hminute⟩ := Text.IsDigits.exists_append 2 hyear
  have hlength : ¬ (hour ++ minute ++ text).length < 2 := by
    rw [List.length_append, List.length_append, hhour.1]
    omega
  unfold readClock
  rw [if_neg hlength, List.append_assoc]
  rcases htext with hweek | ⟨three, more, hthree, rfl⟩
  · obtain ⟨rest, rfl⟩ := List.head?_eq_some_iff.1 hweek
    obtain ⟨cause, hfail⟩ : ∃ cause, digits 2 ([] ++ 'W' :: rest) = .error cause :=
      digits_fails_of_mark rfl Nat.zero_lt_two
    have hgroups : readGroups (hour ++ (minute ++ 'W' :: rest)) = .error cause := by
      have hletter : atEnd ('W' :: rest) = false := rfl
      rw [List.nil_append] at hfail
      unfold readGroups
      rw [atEnd_append hhour.isNumeral Nat.zero_lt_two]
      simp only [digits_append hhour.isNumeral, bind, Except.bind,
        atEnd_append hminute.isNumeral Nat.zero_lt_two, takeColon_append hminute.isNumeral Nat.zero_lt_two,
        digits_append hminute.isNumeral, hletter, hfail, Bool.false_eq_true, if_false, if_true]
    rw [hgroups]
    exact ⟨cause, rfl⟩
  · obtain ⟨second, last, rfl, hsecond, hlast⟩ := Text.IsDigits.exists_append 1 hthree
    rw [List.append_assoc, readGroups_second hhour.isNumeral hminute.isNumeral hsecond.isNumeral]
    obtain ⟨digit, rest, hdigit, hmark⟩ := hlast.isNumeral.exists_digit Nat.zero_lt_one more
    have hfraction : readFraction (last ++ more) = (0, last ++ more) := by
      rw [hdigit]
      simp [readFraction, hmark '.' rfl, hmark ',' rfl]
    have hsome := hlast.isNumeral.append_ne_nil Nat.zero_lt_one more
    simp only [bind, Except.bind, hfraction, if_neg hsome, atEnd_append hlast.isNumeral Nat.zero_lt_one,
      Bool.false_eq_true, if_false]
    exact ⟨.leftover, rfl⟩

/-- What is read as a time of day although a date comes first in it has a mark of a date. -/
theorem hasDate_of_readTime {text clock : List Char} {date : DateFields} {mark : Char}
    (hdate : readDate text = .ok (date, mark :: clock)) {time : TimeOfDay} (hread : readTime text = .ok time) :
    hasDate text = true := by
  by_contra hplain
  obtain ⟨yearGroup, year, after, hyear, rfl⟩ := exists_of_readDate hdate
  have hsome : after ≠ [] := by
    rintro rfl
    obtain ⟨_, _, hgroup, htext, front, hfront, hlength⟩ :=
      consumed_of_readDate hdate (List.cons_ne_nil mark clock)
    have htotal := congrArg List.length htext
    rw [hfront] at htotal
    simp only [List.length_append, List.length_cons, hyear.length, hgroup.1, List.length_nil] at htotal
    omega
  have hdash : after.head? ≠ some '-' := by
    intro hhead
    obtain ⟨rest, rfl⟩ := List.head?_eq_some_iff.1 hhead
    refine hplain (hasDate_iff.2 (Or.inr ?_))
    rw [List.take_append, hyear.length]
    exact List.mem_append_right _ List.mem_cons_self
  have hfails : ∃ cause, readClock (yearGroup ++ after) = .error cause := by
    refine readClock_fails_of_date hyear.isDigits ?_
    rcases of_readDate hyear hdate with hcalendar | ⟨found, hrarer⟩
    · exact Or.inr (exists_digits_of_calendarDate hdash hcalendar hsome)
    · exact exists_digits_of_rarerDate hdash hrarer
  obtain ⟨cause, hfails⟩ := hfails
  unfold readTime at hread
  obtain ⟨body, hbody, hclock⟩ := bind_eq_ok_iff.1 hread
  obtain ⟨-, rfl⟩ := ascii_eq_ok_iff.1 hbody
  rw [hfails] at hclock
  cases hclock

/-- Four digits and an offset of hours alone that write a year and a month of it. -/
inductive IsYearMonth : List Char → List Char → Prop
  | intro {text group : List Char} {year month : Nat} (hyear : IsNumeral 4 text year) (hpos : 1 ≤ year)
      (hmonth : IsNumeral 2 group month) (hfirst : 1 ≤ month) (hlast : month ≤ 12) :
      IsYearMonth text ('-' :: group)

theorem IsYearMonth.length {text offset : List Char} (hmonthly : IsYearMonth text offset) :
    text.length = 4 := by
  cases hmonthly with
  | intro hyear => exact hyear.length

section YearMonth

variable {text group : List Char} {year month : Nat} (hyear : IsNumeral 4 text year)
  (hmonth : IsNumeral 2 group month)
include hyear hmonth

theorem readMoment_monthly :
    readMoment (text ++ '-' :: group) = momentOf ⟨year, month, 1⟩ ⟨0, 0, 0, 0, none⟩ := by
  have hascii : ascii (text ++ '-' :: group) = .ok (text ++ '-' :: group) := by
    refine ascii_eq_ok_iff.2 ⟨List.forall_mem_append.2 ⟨?_, List.forall_mem_cons.2 ⟨by decide, ?_⟩⟩, rfl⟩
    · exact fun c hc => ascii_of_latin (hyear.latin c hc)
    · exact fun c hc => ascii_of_latin (hmonth.latin c hc)
  have hgroup := digits_append hmonth []
  rw [List.append_nil] at hgroup
  have hlength : ¬ (text ++ '-' :: group).length < 4 := by
    rw [List.length_append, hyear.length]
    omega
  have hdate : readDate (text ++ '-' :: group) = .ok (⟨year, month, 1⟩, []) := by
    unfold readDate calendarDate
    rw [if_neg hlength, digits_append hyear]
    simp only [bind, Except.bind, takeDash, hgroup, List.cons_ne_nil, if_false, if_true]
  unfold readMoment
  rw [hascii]
  simp only [bind, Except.bind, hdate]

theorem isYearMonth_of_readMoment {moment : Moment} (hread : readMoment (text ++ '-' :: group) = .ok moment) :
    IsYearMonth text ('-' :: group) := by
  rw [readMoment_monthly hyear hmonth] at hread
  unfold momentOf at hread
  obtain ⟨civil, hcivil, -⟩ := bind_eq_ok_iff.1 hread
  obtain ⟨hdate, -⟩ := Civil.ofFields_eq_ok_iff.1 (mapError_eq_ok_iff.1 hcivil)
  obtain ⟨rfl, rfl, -⟩ := Date.ofFields_eq_ok_iff.1 hdate
  exact .intro hyear civil.date.year_pos hmonth civil.date.month_pos civil.date.month_le

end YearMonth

/-- A year and a month are read as midnight of the month's first day. -/
theorem IsYearMonth.readMoment {text offset : List Char} (hmonthly : IsYearMonth text offset) :
    (readMoment (text ++ offset)).map (·.civil.time) = .ok .midnight := by
  cases hmonthly with
  | @intro group year month hyear hpos hmonth hfirst hlast =>
    have hlimit : year ≤ 9999 := by
      have hbound := Text.ofDigits_lt text
      rw [Text.ofDigits_of_latin hyear.latin, hyear.value, hyear.length] at hbound
      omega
    have hday : 1 ≤ daysInMonth year month := Nat.le_trans (by decide) (daysInMonth_ge year month)
    have hcivil : Civil.ofFields year month 1 0 0 0 0 =
        .ok ⟨⟨year, month, 1, hpos, hlimit, hfirst, hlast, Nat.le_refl 1, hday⟩, .midnight⟩ :=
      Civil.ofFields_eq_ok_iff.2 ⟨Date.ofFields_eq_ok_iff.2 ⟨rfl, rfl, rfl⟩, rfl⟩
    rw [readMoment_monthly hyear hmonth, momentOf]
    dsimp only
    rw [if_neg (by decide), hcivil]
    rfl

/-- Two digits behind a dash are a month, which needs another dash or nothing behind it. -/
theorem calendarDate_fails_of_undashed {year month : Nat} {group rest : List Char}
    (hmonth : IsNumeral 2 group month) (hsome : rest ≠ []) (hdash : rest.head? ≠ some '-') :
    calendarDate year ('-' :: (group ++ rest)) = .error .mixedDashes := by
  have hfirst : takeDash ('-' :: (group ++ rest)) = (true, group ++ rest) := rfl
  unfold calendarDate
  rw [if_neg (List.cons_ne_nil _ _)]
  simp only [hfirst, digits_append hmonth, bind, Except.bind, if_neg hsome, if_true,
    takeDash_of_head?_ne hdash, Bool.true_eq_false, if_false]

theorem rarerDate_of_digit {year width number : Nat} {group rest : List Char}
    (hgroup : IsNumeral width group number) (hwidth : 0 < width) :
    rarerDate year ('-' :: (group ++ rest)) = ordinalDate year (group ++ rest) := by
  obtain ⟨digit, more, hdigit, hmark⟩ := hgroup.exists_digit hwidth rest
  unfold rarerDate
  rw [hdigit]
  simp [takeDash, hmark 'W' rfl]

/-- A text without a date means no moment, and neither does one with a single character behind its date. -/
theorem readMoment_fails {text : List Char}
    (hshort : ∀ date rest, readDate text = .ok (date, rest) → rest.length = 1) :
    ∃ cause, readMoment text = .error cause := by
  cases hread : readMoment text with
  | error cause => exact ⟨cause, rfl⟩
  | ok moment =>
    unfold readMoment at hread
    obtain ⟨body, hbody, hmoment⟩ := bind_eq_ok_iff.1 hread
    obtain ⟨-, rfl⟩ := ascii_eq_ok_iff.1 hbody
    obtain ⟨⟨date, left⟩, hdate, hclock⟩ := bind_eq_ok_iff.1 hmoment
    obtain ⟨mark, rfl⟩ := List.length_eq_one_iff.1 (hshort date left hdate)
    cases hclock

theorem head?_ne_of_digit {width number : Nat} {group : List Char} (hgroup : IsNumeral width group number)
    (hwidth : 0 < width) (rest : List Char) {mark : Char} (hmark : mark.isDigit = false) :
    (group ++ rest).head? ≠ some mark := by
  obtain ⟨digit, more, hdigit, hmarks⟩ := hgroup.exists_digit hwidth rest
  rw [hdigit, List.head?_cons, ne_eq, Option.some.injEq]
  exact hmarks mark hmark

theorem length_of_ordinalDate {year : Nat} {text rest : List Char} {date : Date}
    (hread : ordinalDate year text = .ok (date, rest)) : text.length = 3 + rest.length := by
  unfold ordinalDate at hread
  split at hread
  · cases hread
  · obtain ⟨⟨day, after⟩, hday, hread⟩ := bind_eq_ok_iff.1 hread
    have hlength := length_of_digits hday
    dsimp only at hread
    split at hread
    · obtain ⟨found, -, hread⟩ := bind_eq_ok_iff.1 hread
      cases hread
      exact hlength
    · cases hread

theorem ordinalDate_fails {year : Nat} {front rest : List Char} {mark : Char} (hmark : mark.isDigit = false)
    (hfront : front.length < 3) (date : Date) (left : List Char) :
    ordinalDate year (front ++ mark :: rest) ≠ .ok (date, left) := by
  intro hread
  obtain ⟨cause, hfails⟩ : ∃ cause, digits 3 (front ++ mark :: rest) = .error cause :=
    digits_fails_of_mark hmark hfront
  unfold ordinalDate at hread
  rw [hfails] at hread
  split at hread
  · cases hread
  · cases hread

/-- Four digits and an offset to the west mean no moment, unless they are a year and a month. -/
theorem readMoment_fails_of_digits {text rest : List Char} (hdigits : IsDigits 4 text)
    (hoffset : IsOffset ('-' :: rest)) (hmonthly : ¬ IsYearMonth text ('-' :: rest)) :
    ∃ cause, readMoment (text ++ '-' :: rest) = .error cause := by
  cases hoffset with
  | hours hsign hhours hhoursLt =>
    cases hread : readMoment (text ++ '-' :: rest) with
    | error cause => exact ⟨cause, rfl⟩
    | ok moment => exact absurd (isYearMonth_of_readMoment hdigits.isNumeral hhours hread) hmonthly
  | @minutes _ _ minutesGroup _ _ hsign hhours hminutes hhoursLt hminutesLt =>
    refine readMoment_fails fun date left hdate => ?_
    have hsome := hminutes.append_ne_nil Nat.zero_lt_two []
    have hdash : (minutesGroup ++ []).head? ≠ some '-' := head?_ne_of_digit hminutes Nat.zero_lt_two [] rfl
    rw [List.append_nil] at hsome hdash
    rcases of_readDate hdigits.isNumeral hdate with hcalendar | ⟨found, hrarer⟩
    · rw [calendarDate_fails_of_undashed hhours hsome hdash] at hcalendar
      cases hcalendar
    · rw [rarerDate_of_digit hhours Nat.zero_lt_two] at hrarer
      have hlength := length_of_ordinalDate hrarer
      rw [List.length_append, hhours.length, hminutes.length] at hlength
      omega
  | minutesColon hsign hhours hminutes hhoursLt hminutesLt =>
    refine readMoment_fails fun date left hdate => ?_
    rcases of_readDate hdigits.isNumeral hdate with hcalendar | ⟨found, hrarer⟩
    · rw [calendarDate_fails_of_undashed hhours (List.cons_ne_nil _ _) (by simp)] at hcalendar
      cases hcalendar
    · rw [rarerDate_of_digit hhours Nat.zero_lt_two] at hrarer
      exact absurd hrarer (ordinalDate_fails rfl (by rw [hhours.length]; decide) _ _)

/-- A short time of day with a minus behind it means no moment, unless the two are a year and a month. -/
theorem IsClock.readMoment_fails {text offset : List Char} (hclock : IsClock text) (hshort : text.length < 8)
    (hoffset : IsOffset offset) (hminus : offset.head? = some '-') (hmonthly : ¬ IsYearMonth text offset) :
    ∃ cause, readMoment (text ++ offset) = .error cause := by
  obtain ⟨rest, rfl⟩ := List.head?_eq_some_iff.1 hminus
  -- Where a colon or the minus is among the first four characters there is no year.
  have hnone : ∀ {text : List Char}, (∃ cause, digits 4 text = .error cause) →
      ∃ cause, readMoment text = .error cause := by
    intro text hfails
    refine Iso.readMoment_fails fun date rest hdate => ?_
    obtain ⟨cause, hfails⟩ := hfails
    obtain ⟨yearGroup, year, after, hyear, rfl⟩ := exists_of_readDate hdate
    rw [digits_append hyear] at hfails
    cases hfails
  cases hclock with
  | hour hhour => exact hnone (digits_fails_of_mark rfl (by rw [hhour.1]; decide))
  | minuteColon hhour hminute =>
    rw [List.append_assoc, List.cons_append]
    exact hnone (digits_fails_of_mark rfl (by rw [hhour.1]; decide))
  | minute hhour hminute => exact readMoment_fails_of_digits (hhour.append hminute) hoffset hmonthly
  | @second hour minute second fraction hhour hminute hsecond hfraction =>
    cases hfraction with
    | nothing =>
      rw [List.append_nil, ← List.append_assoc, List.append_assoc]
      refine Iso.readMoment_fails fun date left hdate => ?_
      have hhead : ∀ {mark : Char}, mark.isDigit = false → (second ++ '-' :: rest).head? ≠ some mark :=
        head?_ne_of_digit hsecond.isNumeral Nat.zero_lt_two ('-' :: rest)
      have hsome := hsecond.isNumeral.append_ne_nil Nat.zero_lt_two ('-' :: rest)
      have hthree : ¬ ∃ three more, IsDigits 3 three ∧ second ++ '-' :: rest = three ++ more := by
        rintro ⟨three, more, hthree, hsame⟩
        obtain ⟨cause, hfails⟩ : ∃ cause, digits 3 (second ++ '-' :: rest) = .error cause :=
          digits_fails_of_mark rfl (by rw [hsecond.1]; decide)
        rw [hsame, digits_append hthree.isNumeral] at hfails
        cases hfails
      rcases of_readDate (hhour.append hminute).isNumeral hdate with hcalendar | ⟨found, hrarer⟩
      · exact absurd (exists_digits_of_calendarDate (hhead rfl) hcalendar hsome) hthree
      · rcases exists_digits_of_rarerDate (hhead rfl) hrarer with hweek | hdigits
        · exact absurd hweek (hhead rfl)
        · exact absurd hdigits hthree
    | digits hmark hsome hdigits =>
      have hpos := List.length_pos_of_ne_nil hsome
      simp only [List.length_append, List.length_cons, hhour.1, hminute.1, hsecond.1] at hshort
      omega
  | secondColon hhour hminute hsecond hfraction =>
    simp only [List.length_append, List.length_cons, hhour.1, hminute.1, hsecond.1] at hshort
    omega

end Iso

end Recurrence
