import Mathlib.Data.List.Basic
import Recurrence.Calendar.Weekday
import Recurrence.Proofs.Calendar.DayNumber

namespace Recurrence

/-- Among successive numbers, the ones with one remainder by seven begin within a week and then follow each
    other week by week. -/
theorem filter_mod_seven_getElem? {rest : Nat} (hrest : rest < 7) (start count place number : Nat) :
    ((List.range' start count).filter fun number => number % 7 = rest)[place]? = some number ↔
      number = start + (rest + 7 - start % 7) % 7 + 7 * place ∧ number < start + count := by
  induction count generalizing start place with
  | zero =>
    simp only [List.range'_zero, List.filter_nil, List.getElem?_nil, reduceCtorEq, false_iff]
    omega
  | succ count ih =>
    rw [List.range'_succ]
    by_cases hfits : start % 7 = rest
    · rw [List.filter_cons_of_pos (by simpa using hfits)]
      cases place with
      | zero =>
        rw [List.getElem?_cons_zero, Option.some.injEq]
        omega
      | succ place =>
        rw [List.getElem?_cons_succ, ih]
        omega
    · rw [List.filter_cons_of_neg (by simpa using hfits), ih]
      omega

/-- The last one of them lies less than a week before the end. -/
theorem filter_mod_seven_getLast? {rest : Nat} (hrest : rest < 7) (start count number : Nat) :
    ((List.range' start (count + 1)).filter fun number => number % 7 = rest).getLast? = some number ↔
      number + ((start + count) % 7 + 7 - rest) % 7 = start + count ∧ start ≤ number := by
  induction count with
  | zero =>
    rw [List.range'_one]
    by_cases hfits : start % 7 = rest
    · rw [List.filter_cons_of_pos (by simpa using hfits), List.filter_nil, List.getLast?_singleton,
        Option.some.injEq]
      omega
    · rw [List.filter_cons_of_neg (by simpa using hfits), List.filter_nil, List.getLast?_nil]
      simp only [reduceCtorEq, false_iff]
      omega
  | succ count ih =>
    rw [List.range'_concat, List.filter_append, List.getLast?_append, Nat.one_mul]
    by_cases hfits : (start + (count + 1)) % 7 = rest
    · rw [List.filter_cons_of_pos (by simpa using hfits), List.filter_nil, List.getLast?_singleton,
        Option.some_or, Option.some.injEq]
      omega
    · rw [List.filter_cons_of_neg (by simpa using hfits), List.filter_nil, List.getLast?_nil,
        Option.none_or, ih]
      omega

namespace Weekday

@[simp] theorem number_ofNumber (n : Nat) : (ofNumber n).number = n % 7 := by
  have hweek : n % 7 = 0 ∨ n % 7 = 1 ∨ n % 7 = 2 ∨ n % 7 = 3 ∨ n % 7 = 4 ∨ n % 7 = 5 ∨ n % 7 = 6 := by
    omega
  rcases hweek with h | h | h | h | h | h | h <;> simp [ofNumber, number, h]

theorem ofNumber_eq_iff {n : Nat} {day : Weekday} : ofNumber n = day ↔ n % 7 = day.number := by
  constructor
  · rintro rfl
    rw [number_ofNumber]
  · intro hnumber
    have hsame : ofNumber n = ofNumber day.number := by
      unfold ofNumber
      rw [hnumber, Nat.mod_eq_of_lt day.number_lt]
    rw [hsame, ofNumber_number]

end Weekday

namespace Date

/-- A day number inside a month belongs to a date of that month. -/
theorem monthIndex_eq_of_dayNumber {date : Date} {index : Nat} (hindex : 12 ≤ index)
    (hlow : monthStart index < date.dayNumber)
    (hhigh : date.dayNumber ≤ monthStart index + monthLength index) : date.monthIndex = index := by
  have hnumber := dayNumber_eq date
  have hpos := date.day_pos
  have hday := date.day_le_monthLength
  rcases Nat.lt_trichotomy date.monthIndex index with hlt | heq | hgt
  · have hbefore := monthStart_add_length_le date.monthIndex_ge hlt
    omega
  · exact heq
  · have hafter := monthStart_add_length_le hindex hgt
    omega

theorem monthLength_le (index : Nat) : monthLength index ≤ 31 := by
  unfold monthLength daysInMonth
  split
  · split <;> omega
  · split <;> omega

@[simp] theorem firstOfMonth_monthIndex (date : Date) :
    date.firstOfMonth.monthIndex = date.monthIndex := rfl

theorem firstOfMonth_dayNumber (date : Date) :
    date.firstOfMonth.dayNumber = monthStart date.monthIndex + 1 := dayNumber_eq _

theorem lastOfMonth_dayNumber (date : Date) :
    date.lastOfMonth.dayNumber = monthStart date.monthIndex + monthLength date.monthIndex := by
  rw [dayNumber_eq, monthLength_monthIndex]
  rfl

theorem monthIndex_eq_iff {a b : Date} :
    a.monthIndex = b.monthIndex ↔ a.year = b.year ∧ a.month = b.month := by
  constructor
  · intro hindex
    rw [← monthIndex_div a, ← monthIndex_div b, ← monthIndex_mod a, ← monthIndex_mod b, hindex]
    exact ⟨rfl, rfl⟩
  · rintro ⟨hyear, hmonth⟩
    unfold monthIndex
    rw [hyear, hmonth]

theorem weekday_eq_iff {date : Date} {day : Weekday} :
    date.weekday = day ↔ date.dayNumber % 7 = day.number := Weekday.ofNumber_eq_iff

/-- The dates of the month with an index, in order; none if the calendar does not have the month. -/
def ofMonth (index : Nat) : List Date :=
  (List.range' 1 (monthLength index)).filterMap fun day =>
    (ofFields (index / 12) (index % 12 + 1) day).toOption

/-- The `position`-th date of the month with an index that falls on a weekday; -1 stands for the last one. -/
def nthWeekday? (index : Nat) (day : Weekday) (position : Int) : Option Date :=
  let fitting := (ofMonth index).filter fun date => date.weekday = day
  if position = -1 then fitting.getLast?
  else if 0 < position then fitting[position.toNat - 1]?
  else none

theorem ofMonth_of_endMonth_le {index : Nat} (hend : endMonth ≤ index) : ofMonth index = [] := by
  rw [ofMonth, List.filterMap_eq_nil_iff]
  intro day _
  have hyear : ¬ (1 ≤ index / 12 ∧ index / 12 ≤ 9999) := by
    unfold endMonth at hend
    omega
  rw [ofFields, dif_neg hyear]
  rfl

section

variable {index : Nat} (hlow : 12 ≤ index) (hhigh : index < endMonth)
include hlow hhigh

/-- The day numbers of a month follow one another without a gap. -/
theorem map_dayNumber_ofMonth :
    (ofMonth index).map dayNumber = List.range' (monthStart index + 1) (monthLength index) := by
  unfold endMonth at hhigh
  have hdays : ∀ day ∈ List.range' 1 (monthLength index),
      ((ofFields (index / 12) (index % 12 + 1) day).toOption).map dayNumber =
        some (monthStart index + day) := by
    intro day hday
    rw [List.mem_range'_1] at hday
    let date : Date :=
      ⟨index / 12, index % 12 + 1, day, by omega, by omega, by omega, by omega, by omega,
        by unfold monthLength at hday; omega⟩
    have hfields : ofFields (index / 12) (index % 12 + 1) day = .ok date :=
      ofFields_eq_ok_iff.2 ⟨rfl, rfl, rfl⟩
    rw [hfields]
    rfl
  rw [ofMonth, List.map_filterMap, List.filterMap_congr hdays, List.filterMap_eq_map']
  exact List.map_add_range' ..

theorem map_dayNumber_fitting (day : Weekday) :
    ((ofMonth index).filter fun date => date.weekday = day).map dayNumber =
      (List.range' (monthStart index + 1) (monthLength index)).filter
        fun number => number % 7 = day.number := by
  rw [← map_dayNumber_ofMonth hlow hhigh, List.filter_map]
  congr 1
  refine List.filter_congr fun date _ => ?_
  simp only [Function.comp_apply, weekday_eq_iff]

end

theorem map_dayNumber_eq_some_iff {found : Option Date} {date : Date} :
    found.map dayNumber = some date.dayNumber ↔ found = some date := by
  cases found with
  | none => simp
  | some other =>
    rw [Option.map_some, Option.some.injEq, Option.some.injEq]
    exact ⟨dayNumber_injective, congrArg dayNumber⟩

/-- The day number on which a weekday first falls in or after the month with an index. -/
def firstFitting (index : Nat) (day : Weekday) : Nat :=
  monthStart index + 1 + (day.number + 7 - (monthStart index + 1) % 7) % 7

theorem nthWeekday?_of_endMonth_le {index : Nat} (hend : endMonth ≤ index) (day : Weekday)
    (position : Int) : nthWeekday? index day position = none := by
  simp [nthWeekday?, ofMonth_of_endMonth_le hend]

theorem nthWeekday?_of_not_pos {position : Int} (hpos : ¬ 0 < position) (hlast : position ≠ -1)
    (index : Nat) (day : Weekday) : nthWeekday? index day position = none := by
  simp [nthWeekday?, hpos, hlast]

section

variable {index : Nat} (hlow : 12 ≤ index) (hhigh : index < endMonth) {day : Weekday} {date : Date}
include hlow hhigh

/-- The date at a position is as many weeks after the first fitting day, if that is still in the month. -/
theorem nthWeekday?_eq_some_iff_of_pos {position : Int} (hpos : 0 < position) :
    nthWeekday? index day position = some date ↔
      date.monthIndex = index ∧
        (date.dayNumber : Int) = firstFitting index day + 7 * (position - 1) := by
  have hlast : position ≠ -1 := by omega
  have hnumber := dayNumber_eq date
  have hday := date.day_le_monthLength
  simp only [nthWeekday?, if_neg hlast, if_pos hpos]
  rw [← map_dayNumber_eq_some_iff, ← List.getElem?_map, map_dayNumber_fitting hlow hhigh,
    filter_mod_seven_getElem? day.number_lt]
  unfold firstFitting
  constructor
  · rintro ⟨hplace, hend⟩
    exact ⟨monthIndex_eq_of_dayNumber hlow (by omega) (by omega), by omega⟩
  · rintro ⟨rfl, hplace⟩
    exact ⟨by omega, by omega⟩

/-- The last fitting date is less than a week before the end of the month. -/
theorem nthWeekday?_last_eq_some_iff :
    nthWeekday? index day (-1) = some date ↔
      date.dayNumber + ((monthStart index + monthLength index) % 7 + 7 - day.number) % 7 =
        monthStart index + monthLength index := by
  have hlength := monthLength_ge index
  obtain ⟨count, hcount⟩ : ∃ count, monthLength index = count + 1 := ⟨monthLength index - 1, by omega⟩
  simp only [nthWeekday?, if_true]
  rw [← map_dayNumber_eq_some_iff, ← List.getLast?_map, map_dayNumber_fitting hlow hhigh, hcount,
    filter_mod_seven_getLast? day.number_lt]
  omega

end

/-- Every month has four of each weekday, and a last one. -/
theorem exists_nthWeekday? (date : Date) (day : Weekday) {position : Int}
    (hposition : position = -1 ∨ 1 ≤ position ∧ position ≤ 4) :
    ∃ found, nthWeekday? date.monthIndex day position = some found := by
  have hlength := monthLength_ge date.monthIndex
  have hlast := date.lastOfMonth.dayNumber_le_last
  have hday := day.number_lt
  rw [lastOfMonth_dayNumber] at hlast
  rcases hposition with rfl | ⟨hpos, hfour⟩
  · obtain ⟨back, hback⟩ : ∃ back, back =
        ((monthStart date.monthIndex + monthLength date.monthIndex) % 7 + 7 - day.number) % 7 := ⟨_, rfl⟩
    obtain ⟨found, hfound⟩ := exists_ofDayNumber?
      (show 1 ≤ monthStart date.monthIndex + monthLength date.monthIndex - back by omega) (by omega)
    have hnumber := dayNumber_of_ofDayNumber? (by omega) hfound
    refine ⟨found, (nthWeekday?_last_eq_some_iff date.monthIndex_ge date.monthIndex_lt).2 ?_⟩
    omega
  · obtain ⟨weeks, hweeks⟩ : ∃ weeks : Nat, (weeks : Int) = position - 1 :=
      ⟨(position - 1).toNat, by omega⟩
    have hfirst : firstFitting date.monthIndex day ≤ monthStart date.monthIndex + 7 := by
      unfold firstFitting
      omega
    have hafter : monthStart date.monthIndex + 1 ≤ firstFitting date.monthIndex day :=
      Nat.le_add_right _ _
    obtain ⟨found, hfound⟩ := exists_ofDayNumber?
      (show 1 ≤ firstFitting date.monthIndex day + 7 * weeks by omega) (by omega)
    have hnumber := dayNumber_of_ofDayNumber? (by omega) hfound
    refine ⟨found, (nthWeekday?_eq_some_iff_of_pos date.monthIndex_ge date.monthIndex_lt hpos).2
      ⟨monthIndex_eq_of_dayNumber date.monthIndex_ge (by omega) (by omega), by omega⟩⟩

end Date

end Recurrence
