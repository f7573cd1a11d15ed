import Recurrence.Calendar.Shift
import Recurrence.Proofs.Calendar.DayNumber

namespace Recurrence

namespace Date

/-- The date in the month that is `amount` months later, with the day cut to that month's length. -/
def addMonths (date : Date) (amount : Int) : Except CalendarError Date :=
  let index : Int := date.monthIndex + amount
  let year := index / 12
  if hyear : 1 ≤ year ∧ year ≤ 9999 then
    let month := (index % 12).toNat + 1
    have hmonth : month ≤ 12 := by
      have := Int.emod_lt_of_pos index (show (0 : Int) < 12 by decide)
      have := Int.emod_nonneg index (show (12 : Int) ≠ 0 by decide)
      omega
    .ok {
      year := year.toNat
      month
      day := min date.day (daysInMonth year.toNat month)
      year_pos := by omega
      year_le := by omega
      month_pos := by omega
      month_le := hmonth
      day_pos := by
        have := date.day_pos
        have := daysInMonth_ge year.toNat month
        omega
      day_le := Nat.min_le_right _ _ }
  else if -2147483648 ≤ year ∧ year ≤ 2147483647 then .error (.yearOutOfRange year)
  else .error .yearUnrepresentable

/-- Carrying by size and sign comes to the same as counting months over all years. -/
theorem addStep_eq_addMonths (date : Date) (step : MonthStep) :
    date.addStep step = date.addMonths (12 * step.years + step.months) := by
  have hmonth := step.month_bounds date
  have hpos := date.month_pos
  have hindex : (date.monthIndex : Int) + (12 * step.years + step.months) =
      12 * step.year date + (step.month date - 1) := by
    unfold monthIndex MonthStep.year MonthStep.month
    omega
  have hquotient : ((date.monthIndex : Int) + (12 * step.years + step.months)) / 12 = step.year date := by
    omega
  have hrest : ((date.monthIndex : Int) + (12 * step.years + step.months)) % 12 =
      step.month date - 1 := by
    omega
  have hback : (step.month date - 1).toNat + 1 = (step.month date).toNat := by omega
  unfold addStep addMonths
  simp only [hquotient, hrest, hback]

theorem shift_months (date : Date) (amount : Int) :
    date.shift .months amount = date.addMonths amount := by
  simp only [shift, addStep_eq_addMonths, MonthStep.ofMonths, Int.mul_tdiv_add_tmod]

theorem shift_years (date : Date) (amount : Int) :
    date.shift .years amount = date.addMonths (12 * amount) := by
  simp only [shift, addStep_eq_addMonths, MonthStep.ofYears, Int.add_zero]

theorem addDays_eq_ok_iff {date later : Date} {amount : Int} :
    date.addDays amount = .ok later ↔ (later.dayNumber : Int) = date.dayNumber + amount := by
  rw [← ofDayNumber?_eq_some_iff]
  unfold addDays
  cases ofDayNumber? (date.dayNumber + amount) with
  | none => simp
  | some found => simp

theorem addDays_fails_iff {date : Date} {amount : Int} :
    (∃ cause, date.addDays amount = .error cause) ↔
      (date.dayNumber : Int) + amount < 1 ∨ (lastDayNumber : Int) < date.dayNumber + amount := by
  rw [← ofDayNumber?_eq_none_iff]
  unfold addDays
  cases ofDayNumber? (date.dayNumber + amount) with
  | none => simp
  | some found => simp

private theorem addMonths_result {date later : Date} {amount : Int}
    (hadd : date.addMonths amount = .ok later) :
    (later.monthIndex : Int) = date.monthIndex + amount ∧
      later.day = min date.day (monthLength later.monthIndex) := by
  simp only [addMonths] at hadd
  split at hadd
  · next hyear =>
    cases hadd
    refine ⟨?_, ?_⟩
    · simp only [monthIndex] at hyear ⊢
      omega
    · rw [monthLength_monthIndex]
  · split at hadd <;> cases hadd

theorem addMonths_fails_iff {date : Date} {amount : Int} :
    (∃ cause, date.addMonths amount = .error cause) ↔
      (date.monthIndex : Int) + amount < 12 ∨ (endMonth : Int) ≤ date.monthIndex + amount := by
  simp only [addMonths, endMonth]
  split
  · next hyear =>
    simp only [reduceCtorEq, exists_false, false_iff]
    omega
  · next hyear =>
    refine ⟨fun _ => by omega, fun _ => ?_⟩
    split
    · exact ⟨_, rfl⟩
    · exact ⟨_, rfl⟩

theorem addMonths_eq_ok_iff {date later : Date} {amount : Int} :
    date.addMonths amount = .ok later ↔
      (later.monthIndex : Int) = date.monthIndex + amount ∧
        later.day = min date.day (monthLength later.monthIndex) := by
  refine ⟨addMonths_result, ?_⟩
  rintro ⟨hmonth, hday⟩
  have hlow := later.monthIndex_ge
  have hhigh := later.monthIndex_lt
  cases hadd : date.addMonths amount with
  | error cause =>
    have houtside := addMonths_fails_iff.1 ⟨cause, hadd⟩
    omega
  | ok found =>
    -- Both dates lie in one month and on one day of it.
    obtain ⟨hfound, hcut⟩ := addMonths_result hadd
    have hsame : found.monthIndex = later.monthIndex := by omega
    rw [ext_of_monthIndex hsame (by rw [hcut, hday, hsame])]

end Date

/-- A step forward: so many days, or so many months. -/
inductive Stride where
  | days (count : Nat)
  | months (count : Nat)
deriving DecidableEq, Repr

namespace Stride

/-- How many days or months the stride goes. -/
def count : Stride → Nat
  | days count => count
  | months count => count

/-- What the stride adds to: the day number or the month index of a date. -/
def index : Stride → Date → Nat
  | days _ => Date.dayNumber
  | months _ => Date.monthIndex

/-- The first index after the calendar. -/
def limit : Stride → Nat
  | days _ => Date.lastDayNumber + 1
  | months _ => Date.endMonth

/-- The date that the stride reaches. -/
def apply (stride : Stride) (date : Date) : Except CalendarError Date :=
  match stride with
  | days count => date.addDays count
  | months count => date.addMonths count

theorem index_lt_limit (stride : Stride) (date : Date) : stride.index date < stride.limit := by
  cases stride with
  | days count => exact Nat.lt_succ_of_le date.dayNumber_le_last
  | months count => exact date.monthIndex_lt

theorem index_of_apply {stride : Stride} {date later : Date} (happly : stride.apply date = .ok later) :
    stride.index later = stride.index date + stride.count := by
  cases stride with
  | days count =>
    have hnumber := Date.addDays_eq_ok_iff.1 happly
    simp only [index, Stride.count]
    omega
  | months count =>
    obtain ⟨hmonth, -⟩ := Date.addMonths_eq_ok_iff.1 happly
    simp only [index, Stride.count]
    omega

theorem apply_fails_iff {stride : Stride} {date : Date} :
    (∃ cause, stride.apply date = .error cause) ↔
      stride.limit ≤ stride.index date + stride.count := by
  cases stride with
  | days count =>
    have hpos := date.dayNumber_pos
    simp only [apply, index, limit, Stride.count, Date.addDays_fails_iff]
    omega
  | months count =>
    have hlow := date.monthIndex_ge
    simp only [apply, index, limit, Stride.count, Date.addMonths_fails_iff]
    omega

/-- A stride orders dates as the calendar does, where it tells them apart. -/
theorem dayNumber_lt_of_index_lt {stride : Stride} {a b : Date}
    (hlt : stride.index a < stride.index b) : a.dayNumber < b.dayNumber := by
  cases stride with
  | days count => exact hlt
  | months count => exact Date.dayNumber_lt_of_monthIndex_lt hlt

end Stride

end Recurrence
