import Recurrence.Calendar.Date
import Recurrence.Proofs.Outcome

namespace Recurrence

theorem daysBeforeYear_succ {year : Nat} (hyear : 1 ≤ year) :
    daysBeforeYear (year + 1) = daysBeforeYear year + daysInYear year := by
  obtain ⟨before, rfl⟩ : ∃ before, year = before + 1 := ⟨year - 1, by omega⟩
  have hcenturies : before / 100 ≤ before / 4 := by omega
  have hfourth : (before + 1) / 4 = before / 4 + if (before + 1) % 4 = 0 then 1 else 0 := by
    split <;> omega
  have hcentury : (before + 1) / 100 = before / 100 + if (before + 1) % 100 = 0 then 1 else 0 := by
    split <;> omega
  have hcycle : (before + 1) / 400 = before / 400 + if (before + 1) % 400 = 0 then 1 else 0 := by
    split <;> omega
  unfold daysBeforeYear daysInYear isLeapYear
  rw [Nat.add_sub_cancel, Nat.add_sub_cancel, hfourth, hcentury, hcycle]
  by_cases h4 : (before + 1) % 4 = 0
  · by_cases h100 : (before + 1) % 100 = 0
    · by_cases h400 : (before + 1) % 400 = 0
      · simp [h4, h100, h400]
        omega
      · simp [h4, h100, h400]
        omega
    · have h400 : (before + 1) % 400 ≠ 0 := by omega
      simp [h4, h100, h400]
      omega
  · have h100 : (before + 1) % 100 ≠ 0 := by omega
    have h400 : (before + 1) % 400 ≠ 0 := by omega
    simp [h4, h100, h400]
    omega

theorem daysBeforeYear_mono {a b : Nat} (ha : 1 ≤ a) (hle : a ≤ b) :
    daysBeforeYear a ≤ daysBeforeYear b := by
  obtain ⟨count, rfl⟩ := Nat.exists_eq_add_of_le hle
  clear hle
  induction count with
  | zero => exact Nat.le_refl _
  | succ count ih =>
    have hpos : 1 ≤ a + count := by omega
    rw [← Nat.add_assoc, daysBeforeYear_succ hpos]
    exact Nat.le_trans ih (Nat.le_add_right _ _)

theorem daysBeforeMonth_twelve (year : Nat) :
    daysBeforeMonth year 12 + daysInMonth year 12 = daysInYear year := by
  unfold daysInYear
  by_cases hleap : isLeapYear year
  · simp [daysBeforeMonth, daysInMonth, hleap]
  · simp [daysBeforeMonth, daysInMonth, hleap]

/-- The cycle of 400 years, cut into centuries, leap cycles and years, finds the year of a day: the
    year begins on or before it and is long enough to hold it. -/
theorem yearOfIndex_spec {index year rest : Nat} (hfound : Date.yearOfIndex index = (year, rest)) :
    1 ≤ year ∧ daysBeforeYear year + rest = index ∧ rest < daysInYear year := by
  simp only [Date.yearOfIndex, Prod.mk.injEq] at hfound
  obtain ⟨hyear, hrest⟩ := hfound
  generalize hcycle : index / 146097 = cycle at *
  generalize hinCycle : index % 146097 = inCycle at *
  generalize hcentury : min (inCycle / 36524) 3 = century at *
  generalize hinCentury : inCycle - 36524 * century = inCentury at *
  generalize hleap : inCentury / 1461 = leap at *
  generalize hinLeap : inCentury % 1461 = inLeap at *
  generalize hsingle : min (inLeap / 365) 3 = single at *
  have hfourth : (year - 1) / 4 = 100 * cycle + 25 * century + leap := by omega
  have hcenturies : (year - 1) / 100 = 4 * cycle + century := by omega
  have hcycles : (year - 1) / 400 = cycle := by omega
  have hindex : 146097 * cycle + 36524 * century + 1461 * leap + 365 * single + rest = index := by
    omega
  refine ⟨by omega, ?_, ?_⟩
  · have hdays : 365 * (year - 1) = 146000 * cycle + 36500 * century + 1460 * leap + 365 * single := by
      omega
    unfold daysBeforeYear
    rw [hfourth, hcenturies, hcycles, hdays]
    clear hcentury hsingle hcycle hinCycle hleap hinLeap hfourth hcenturies hcycles
    omega
  · by_cases hshort : rest < 365
    · unfold daysInYear
      split <;> omega
    · -- Only the last year of a leap cycle holds a 366th day, and it is a leap year.
      have hlast : single = 3 ∧ inLeap = 1460 := by omega
      have hfour : year % 4 = 0 := by omega
      have hcenturyYear : year % 100 = 0 → year % 400 = 0 := by
        intro hround
        have hwhole : leap = 24 := by omega
        omega
      have hleapYear : isLeapYear year = true := by
        unfold isLeapYear
        by_cases hround : year % 100 = 0
        · simp [hfour, hcenturyYear hround]
        · simp [hfour, hround]
      unfold daysInYear
      rw [if_pos hleapYear]
      omega

/-- The walk over the months of a year, from the month `12 - left` on, finds the month of a day. -/
theorem monthOfIndex_spec {year left index month day : Nat} (hleft : left ≤ 11)
    (hindex : daysBeforeMonth year (12 - left) + index < daysInYear year)
    (hfound : Date.monthOfIndex year left index = (month, day)) :
    12 - left ≤ month ∧ month ≤ 12 ∧ 1 ≤ day ∧ day ≤ daysInMonth year month ∧
      daysBeforeMonth year month + day = daysBeforeMonth year (12 - left) + index + 1 := by
  induction left generalizing index with
  | zero =>
    have hwhole := daysBeforeMonth_twelve year
    simp only [Date.monthOfIndex, Prod.mk.injEq] at hfound
    obtain ⟨rfl, rfl⟩ := hfound
    simp only [Nat.sub_zero] at hindex ⊢
    omega
  | succ left ih =>
    have hmonth : 12 - (left + 1) = 11 - left := by omega
    have hnext : daysBeforeMonth year (12 - left) =
        daysBeforeMonth year (11 - left) + daysInMonth year (11 - left) := by
      obtain ⟨before, hbefore⟩ : ∃ before, 11 - left = before + 1 := ⟨10 - left, by omega⟩
      have hafter : 12 - left = before + 2 := by omega
      rw [hbefore, hafter, daysBeforeMonth]
    rw [hmonth] at hindex ⊢
    simp only [Date.monthOfIndex] at hfound
    split at hfound
    · cases hfound
      omega
    · obtain ⟨hlow, hhigh, hpos, hle, hsum⟩ := ih (by omega) (by omega) hfound
      exact ⟨by omega, hhigh, hpos, hle, by omega⟩

namespace Date

/-- Days before the month with an index. -/
def monthStart (index : Nat) : Nat :=
  daysBeforeYear (index / 12) + daysBeforeMonth (index / 12) (index % 12 + 1)

/-- Length of the month with an index. -/
def monthLength (index : Nat) : Nat := daysInMonth (index / 12) (index % 12 + 1)

theorem monthLength_ge (index : Nat) : 28 ≤ monthLength index := daysInMonth_ge _ _

theorem monthStart_succ {index : Nat} (hindex : 12 ≤ index) :
    monthStart (index + 1) = monthStart index + monthLength index := by
  unfold monthStart monthLength
  by_cases hlast : index % 12 = 11
  · -- From December to January of the next year.
    have hyear : (index + 1) / 12 = index / 12 + 1 := by omega
    have hmonth : (index + 1) % 12 = 0 := by omega
    have hwhole : daysBeforeMonth (index / 12) (11 + 1) + daysInMonth (index / 12) (11 + 1) =
        daysInYear (index / 12) := daysBeforeMonth_twelve _
    have hfirst : daysBeforeMonth (index / 12 + 1) (0 + 1) = 0 := rfl
    rw [hyear, hmonth, hlast, daysBeforeYear_succ (by omega), hfirst]
    omega
  · have hyear : (index + 1) / 12 = index / 12 := by omega
    have hmonth : (index + 1) % 12 + 1 = index % 12 + 2 := by omega
    rw [hyear, hmonth, daysBeforeMonth]
    omega

/-- A month ends before any later one begins. -/
theorem monthStart_add_length_le {a b : Nat} (ha : 12 ≤ a) (hlt : a < b) :
    monthStart a + monthLength a ≤ monthStart b := by
  obtain ⟨count, rfl⟩ := Nat.exists_eq_add_of_lt hlt
  clear hlt
  induction count with
  | zero => exact Nat.le_of_eq (monthStart_succ ha).symm
  | succ count ih =>
    have hindex : 12 ≤ a + count + 1 := by omega
    have hnext : a + (count + 1) + 1 = a + count + 1 + 1 := by omega
    rw [hnext, monthStart_succ hindex]
    exact Nat.le_trans ih (Nat.le_add_right _ _)

theorem monthIndex_div (date : Date) : date.monthIndex / 12 = date.year := by
  have hpos := date.month_pos
  have hle := date.month_le
  unfold monthIndex
  omega

theorem monthIndex_mod (date : Date) : date.monthIndex % 12 + 1 = date.month := by
  have hpos := date.month_pos
  have hle := date.month_le
  unfold monthIndex
  omega

theorem monthIndex_ge (date : Date) : 12 ≤ date.monthIndex := by
  have hyear := date.year_pos
  unfold monthIndex
  omega

/-- Index of the first month after the calendar. -/
def endMonth : Nat := 120000

theorem monthIndex_lt (date : Date) : date.monthIndex < endMonth := by
  have hyear := date.year_le
  have hmonth := date.month_le
  unfold monthIndex endMonth
  omega

theorem monthLength_monthIndex (date : Date) :
    monthLength date.monthIndex = daysInMonth date.year date.month := by
  rw [monthLength, monthIndex_div, monthIndex_mod]

/-- A date is its day's place in its month. -/
theorem dayNumber_eq (date : Date) : date.dayNumber = monthStart date.monthIndex + date.day := by
  rw [dayNumber, monthStart, monthIndex_div, monthIndex_mod]

theorem day_le_monthLength (date : Date) : date.day ≤ monthLength date.monthIndex := by
  rw [monthLength_monthIndex]
  exact date.day_le

theorem dayNumber_lt_of_monthIndex_lt {a b : Date} (hlt : a.monthIndex < b.monthIndex) :
    a.dayNumber < b.dayNumber := by
  have hmonths := monthStart_add_length_le a.monthIndex_ge hlt
  have hday := a.day_le_monthLength
  have hpos := b.day_pos
  rw [dayNumber_eq a, dayNumber_eq b]
  omega

theorem ext_of_monthIndex {a b : Date} (hmonth : a.monthIndex = b.monthIndex)
    (hday : a.day = b.day) : a = b := by
  have hyear : a.year = b.year := by rw [← monthIndex_div a, ← monthIndex_div b, hmonth]
  have hmonth : a.month = b.month := by rw [← monthIndex_mod a, ← monthIndex_mod b, hmonth]
  cases a
  cases b
  simp_all

theorem dayNumber_injective {a b : Date} (hnumber : a.dayNumber = b.dayNumber) : a = b := by
  have hmonth : a.monthIndex = b.monthIndex := by
    rcases Nat.lt_trichotomy a.monthIndex b.monthIndex with hlt | heq | hgt
    · exact absurd hnumber (Nat.ne_of_lt (dayNumber_lt_of_monthIndex_lt hlt))
    · exact heq
    · exact absurd hnumber (Nat.ne_of_gt (dayNumber_lt_of_monthIndex_lt hgt))
  refine ext_of_monthIndex hmonth ?_
  rw [dayNumber_eq a, dayNumber_eq b, hmonth] at hnumber
  omega

theorem dayNumber_pos (date : Date) : 1 ≤ date.dayNumber := by
  have hday := date.day_pos
  rw [dayNumber_eq]
  omega

theorem dayNumber_le_last (date : Date) : date.dayNumber ≤ lastDayNumber := by
  have hend := monthStart_add_length_le date.monthIndex_ge date.monthIndex_lt
  have hday := date.day_le_monthLength
  have hlast : monthStart endMonth = lastDayNumber := by decide
  rw [dayNumber_eq]
  omega

theorem ofFields_eq_ok_iff {year month day : Nat} {date : Date} :
    ofFields year month day = .ok date ↔
      date.year = year ∧ date.month = month ∧ date.day = day := by
  constructor
  · intro hfields
    unfold ofFields at hfields
    split at hfields
    · split at hfields
      · split at hfields
        · cases hfields
          exact ⟨rfl, rfl, rfl⟩
        · cases hfields
      · cases hfields
    · cases hfields
  · rintro ⟨rfl, rfl, rfl⟩
    unfold ofFields
    rw [dif_pos ⟨date.year_pos, date.year_le⟩, dif_pos ⟨date.month_pos, date.month_le⟩,
      dif_pos ⟨date.day_pos, date.day_le⟩]

theorem dayNumber_of_ofDayNumber? {number : Nat} {date : Date} (hpos : 1 ≤ number)
    (hfound : ofDayNumber? number = some date) : date.dayNumber = number := by
  unfold ofDayNumber? at hfound
  rw [if_pos (by omega), Int.toNat_natCast] at hfound
  obtain ⟨year, rest, hyear⟩ : ∃ year rest, yearOfIndex (number - 1) = (year, rest) := ⟨_, _, rfl⟩
  obtain ⟨month, day, hmonth⟩ : ∃ month day, monthOfIndex year 11 rest = (month, day) := ⟨_, _, rfl⟩
  obtain ⟨-, hsum, hrest⟩ := yearOfIndex_spec hyear
  have hzero : daysBeforeMonth year (12 - 11) = 0 := rfl
  obtain ⟨-, -, -, -, hday⟩ := monthOfIndex_spec (Nat.le_refl 11) (by omega) hmonth
  simp only [hyear, hmonth] at hfound
  obtain ⟨rfl, rfl, rfl⟩ := ofFields_eq_ok_iff.1 (toOption_eq_some_iff.1 hfound)
  unfold dayNumber
  omega

/-- Every number up to the calendar's last has a date. -/
theorem exists_ofDayNumber? {number : Nat} (hpos : 1 ≤ number) (hle : number ≤ lastDayNumber) :
    ∃ date, ofDayNumber? number = some date := by
  obtain ⟨year, rest, hyear⟩ : ∃ year rest, yearOfIndex (number - 1) = (year, rest) := ⟨_, _, rfl⟩
  obtain ⟨month, day, hmonth⟩ : ∃ month day, monthOfIndex year 11 rest = (month, day) := ⟨_, _, rfl⟩
  obtain ⟨hyearPos, hsum, hrest⟩ := yearOfIndex_spec hyear
  have hzero : daysBeforeMonth year (12 - 11) = 0 := rfl
  obtain ⟨hmonthPos, hmonthLe, hdayPos, hdayLe, -⟩ :=
    monthOfIndex_spec (Nat.le_refl 11) (by omega) hmonth
  have hyearLe : year ≤ 9999 := by
    refine Nat.le_of_not_lt fun hlate => ?_
    have hmono : daysBeforeYear 10000 ≤ daysBeforeYear year := daysBeforeYear_mono (by decide) hlate
    have hlast : daysBeforeYear 10000 = lastDayNumber := by decide
    omega
  let date : Date := ⟨year, month, day, hyearPos, hyearLe, hmonthPos, hmonthLe, hdayPos, hdayLe⟩
  have hfields : ofFields year month day = .ok date := ofFields_eq_ok_iff.2 ⟨rfl, rfl, rfl⟩
  refine ⟨date, ?_⟩
  unfold ofDayNumber?
  rw [if_pos (by omega), Int.toNat_natCast]
  simp only [hyear, hmonth, hfields, Except.toOption]

/-- The date that is found for a number is the one that has it. -/
theorem ofDayNumber?_eq_some_iff {number : Int} {date : Date} :
    ofDayNumber? number = some date ↔ (date.dayNumber : Int) = number := by
  constructor
  · intro hfound
    have hpos : 1 ≤ number := by
      unfold ofDayNumber? at hfound
      split at hfound
      · assumption
      · cases hfound
    obtain ⟨natural, rfl⟩ := Int.eq_ofNat_of_zero_le (show 0 ≤ number by omega)
    rw [dayNumber_of_ofDayNumber? (by omega) hfound]
  · rintro rfl
    obtain ⟨found, hfound⟩ := exists_ofDayNumber? date.dayNumber_pos date.dayNumber_le_last
    have hnumber := dayNumber_of_ofDayNumber? date.dayNumber_pos hfound
    rw [hfound, dayNumber_injective hnumber]

theorem ofDayNumber?_eq_none_iff {number : Int} :
    ofDayNumber? number = none ↔ number < 1 ∨ (lastDayNumber : Int) < number := by
  constructor
  · intro hnone
    refine Decidable.byContradiction fun hinside => ?_
    obtain ⟨natural, rfl⟩ := Int.eq_ofNat_of_zero_le (show 0 ≤ number by omega)
    have hpos : 1 ≤ natural := by omega
    have hle : natural ≤ lastDayNumber := by omega
    obtain ⟨date, hfound⟩ := exists_ofDayNumber? hpos hle
    rw [hnone] at hfound
    cases hfound
  · intro houtside
    cases hfound : ofDayNumber? number with
    | none => rfl
    | some date =>
      have hnumber := ofDayNumber?_eq_some_iff.1 hfound
      have hpos := date.dayNumber_pos
      have hle := date.dayNumber_le_last
      omega

end Date

end Recurrence
