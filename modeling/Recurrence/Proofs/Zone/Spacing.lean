import Mathlib.Data.List.Chain
import Recurrence.Proofs.Calendar.DayNumber
import Recurrence.Zone.Minute

namespace Recurrence

/-- The first second of the month with an index, from the start of 1970. -/
def monthSecond (index : Nat) : Int := ((Date.monthStart index : Int) + 1 - Civil.epochDay) * 86400

theorem monthSecond_succ {index : Nat} (hindex : 12 ≤ index) :
    monthSecond (index + 1) = monthSecond index + (Date.monthLength index : Int) * 86400 := by
  have hnext := Date.monthStart_succ hindex
  unfold monthSecond
  omega

theorem monthSecond_mono {a b : Nat} (ha : 12 ≤ a) (hle : a ≤ b) : monthSecond a ≤ monthSecond b := by
  rcases Nat.eq_or_lt_of_le hle with rfl | hlt
  · exact Int.le_refl _
  · have hmonths := Date.monthStart_add_length_le ha hlt
    unfold monthSecond
    omega

/-- A month has 28 days or more. -/
theorem monthSecond_add_le {a b : Nat} (ha : 12 ≤ a) (hlt : a < b) :
    monthSecond a + 2419200 ≤ monthSecond b := by
  have hnext := monthSecond_mono (show 12 ≤ a + 1 by omega) hlt
  have hlength := Date.monthLength_ge a
  rw [monthSecond_succ ha] at hnext
  omega

namespace Change

/-- The newer of two changes comes at least two days after the older one. -/
def Apart (newer older : Change) : Prop := older.instant + 172800 ≤ newer.instant

instance : DecidableRel Apart := fun newer older =>
  inferInstanceAs (Decidable (older.instant + 172800 ≤ newer.instant))

instance : Trans Apart Apart Apart where
  trans hnewer holder := by
    unfold Apart at *
    omega

/-- A change lies in a month, give or take eight days. -/
def NearMonth (index : Nat) (change : Change) : Prop :=
  monthSecond index - 691200 ≤ change.instant ∧ change.instant ≤ monthSecond (index + 1) + 691200

theorem NearMonth.apart {older newer : Nat} {a b : Change} (ha : a.NearMonth older)
    (hb : b.NearMonth newer) (holder : 12 ≤ older) (hbetween : older + 2 ≤ newer) : b.Apart a := by
  have hmonth := monthSecond_add_le (show 12 ≤ older + 1 by omega) (show older + 1 < newer by omega)
  have hupper := ha.2
  have hlower := hb.1
  unfold Apart
  omega

end Change

/-- A rule day in a month before December, with a time that is off by no more than a week. -/
@[mk_iff] structure RuleDay.IsUsual (rule : RuleDay) : Prop where
  month_pos : 1 ≤ rule.month
  month_lt : rule.month < 12
  week_le : rule.week ≤ 5
  time_ge : -604800 ≤ rule.time
  time_le : rule.time ≤ 604800

instance (rule : RuleDay) : Decidable rule.IsUsual := decidable_of_iff _ (rule.isUsual_iff).symm

/-- Index of the rule's month in a year. -/
def RuleDay.monthIndex (rule : RuleDay) (year : Nat) : Nat := 12 * year + (rule.month - 1)

theorem RuleDay.IsUsual.monthIndex_between {rule : RuleDay} (husual : rule.IsUsual) (year : Nat) :
    12 * year ≤ rule.monthIndex year ∧ rule.monthIndex year < 12 * (year + 1) ∧
      rule.monthIndex year % 12 < 11 := by
  have hpos := husual.month_pos
  have hlt := husual.month_lt
  unfold monthIndex
  omega

/-- The day that a rule means lies in the rule's month, and the time moves it by a week at most. -/
theorem RuleDay.IsUsual.civilSecond_between {rule : RuleDay} (husual : rule.IsUsual) {year : Nat}
    (hyear : 1 ≤ year) :
    monthSecond (rule.monthIndex year) - 604800 ≤ rule.civilSecond year ∧
      rule.civilSecond year ≤ monthSecond (rule.monthIndex year + 1) + 604800 := by
  obtain ⟨hpos, hlt, hweek, hearly, hlate⟩ := husual
  have hindex : 12 ≤ rule.monthIndex year := by
    unfold monthIndex
    omega
  have hquotient : rule.monthIndex year / 12 = year := by
    unfold monthIndex
    omega
  have hremainder : rule.monthIndex year % 12 + 1 = rule.month := by
    unfold monthIndex
    omega
  have hstart : Date.monthStart (rule.monthIndex year) =
      daysBeforeYear year + daysBeforeMonth year rule.month := by
    rw [Date.monthStart, hquotient, hremainder]
  have hlength : Date.monthLength (rule.monthIndex year) = daysInMonth year rule.month := by
    rw [Date.monthLength, hquotient, hremainder]
  have hlong := daysInMonth_ge year rule.month
  rw [monthSecond_succ hindex, hlength, monthSecond, hstart]
  simp only [civilSecond]
  split <;> omega

/-- An offset moves it by a day more at most. -/
theorem RuleDay.IsUsual.nearMonth {rule : RuleDay} (husual : rule.IsUsual) {year : Nat} (hyear : 1 ≤ year)
    {before after : Phase} (hoffset : -86400 ≤ before.offset ∧ before.offset ≤ 86400) :
    Change.NearMonth (rule.monthIndex year) ⟨rule.civilSecond year - before.offset, before, after⟩ := by
  have hbetween := husual.civilSecond_between hyear
  unfold Change.NearMonth
  dsimp only
  omega

/-- An annual rule whose two changes have a whole month between them and move the clock by a day at most. -/
@[mk_iff] structure AnnualRule.IsUsual (rule : AnnualRule) : Prop where
  starts : rule.starts.IsUsual
  ends : rule.ends.IsUsual
  months : rule.starts.month + 2 ≤ rule.ends.month ∨ rule.ends.month + 2 ≤ rule.starts.month
  standard : -86400 ≤ rule.standard.offset ∧ rule.standard.offset ≤ 86400
  daylight : -86400 ≤ rule.daylight.offset ∧ rule.daylight.offset ≤ 86400
  saving : -86400 ≤ rule.daylight.offset - rule.standard.offset ∧
    rule.daylight.offset - rule.standard.offset ≤ 86400

instance (rule : AnnualRule) : Decidable rule.IsUsual := decidable_of_iff _ (rule.isUsual_iff).symm

/-- The change to daylight time in a year. -/
def AnnualRule.startIn (rule : AnnualRule) (year : Nat) : Change :=
  ⟨rule.starts.civilSecond year - rule.standard.offset, rule.standard, rule.daylight⟩

/-- The change back to standard time in a year. -/
def AnnualRule.stopIn (rule : AnnualRule) (year : Nat) : Change :=
  ⟨rule.ends.civilSecond year - rule.daylight.offset, rule.daylight, rule.standard⟩

theorem AnnualRule.changesIn_eq (rule : AnnualRule) (year : Nat) :
    rule.changesIn year = if (rule.startIn year).instant ≤ (rule.stopIn year).instant
      then [rule.stopIn year, rule.startIn year] else [rule.startIn year, rule.stopIn year] :=
  rfl

theorem AnnualRule.mem_changesIn {rule : AnnualRule} {year : Nat} {change : Change}
    (hmem : change ∈ rule.changesIn year) : change = rule.startIn year ∨ change = rule.stopIn year := by
  rw [changesIn_eq] at hmem
  split at hmem
  · simpa [or_comm] using hmem
  · simpa using hmem

theorem AnnualRule.exists_of_mem_changesFrom {rule : AnnualRule} {first count : Nat} {change : Change}
    (hmem : change ∈ rule.changesFrom first count) :
    ∃ year, change = rule.startIn year ∨ change = rule.stopIn year := by
  induction count with
  | zero => cases hmem
  | succ count ih =>
    rcases List.mem_append.1 hmem with hyear | hearlier
    · exact ⟨first + count, mem_changesIn hyear⟩
    · exact ih hearlier

/-- A change lies near a month of some years, not near December. -/
def Change.InYears (first last : Nat) (change : Change) : Prop :=
  ∃ index, 12 * first ≤ index ∧ index < 12 * last ∧ index % 12 < 11 ∧ change.NearMonth index

/-- No month of later years is next to one of those. -/
theorem Change.InYears.apart {first middle last : Nat} {older newer : Change} (hfirst : 1 ≤ first)
    (holder : older.InYears first middle) (hnewer : newer.InYears middle last) : newer.Apart older := by
  obtain ⟨month, hge, hlt, hmonth, hnear⟩ := holder
  obtain ⟨later, hlater, -, -, hlaterNear⟩ := hnewer
  exact hnear.apart hlaterNear (by omega) (by omega)

namespace AnnualRule.IsUsual

variable {rule : AnnualRule} (husual : rule.IsUsual)

include husual

theorem nearMonth_startIn {year : Nat} (hyear : 1 ≤ year) :
    (rule.startIn year).NearMonth (rule.starts.monthIndex year) :=
  husual.starts.nearMonth hyear husual.standard

theorem nearMonth_stopIn {year : Nat} (hyear : 1 ≤ year) :
    (rule.stopIn year).NearMonth (rule.ends.monthIndex year) :=
  husual.ends.nearMonth hyear husual.daylight

theorem inYears_of_mem_changesIn {year : Nat} (hyear : 1 ≤ year) {change : Change}
    (hmem : change ∈ rule.changesIn year) : change.InYears year (year + 1) := by
  rcases mem_changesIn hmem with rfl | rfl
  · obtain ⟨hge, hlt, hmonth⟩ := husual.starts.monthIndex_between year
    exact ⟨_, hge, hlt, hmonth, husual.nearMonth_startIn hyear⟩
  · obtain ⟨hge, hlt, hmonth⟩ := husual.ends.monthIndex_between year
    exact ⟨_, hge, hlt, hmonth, husual.nearMonth_stopIn hyear⟩

/-- In every year the months decide which of the two changes comes first. -/
theorem apart_in_year {year : Nat} (hyear : 1 ≤ year) :
    (rule.starts.month < rule.ends.month ∧ (rule.stopIn year).Apart (rule.startIn year)) ∨
      (rule.ends.month < rule.starts.month ∧ (rule.startIn year).Apart (rule.stopIn year)) := by
  have hstart := husual.nearMonth_startIn hyear
  have hstop := husual.nearMonth_stopIn hyear
  have hstartMonth := husual.starts.monthIndex_between year
  have hstopMonth := husual.ends.monthIndex_between year
  have hpos := husual.starts.month_pos
  have hother := husual.ends.month_pos
  have hstartIndex : rule.starts.monthIndex year = 12 * year + (rule.starts.month - 1) := rfl
  have hstopIndex : rule.ends.monthIndex year = 12 * year + (rule.ends.month - 1) := rfl
  rcases husual.months with hmonths | hmonths
  · exact Or.inl ⟨by omega, hstart.apart hstop (by omega) (by omega)⟩
  · exact Or.inr ⟨by omega, hstop.apart hstart (by omega) (by omega)⟩

/-- The changes of a year in the order of its months. -/
theorem changesIn_eq_of_months {year : Nat} (hyear : 1 ≤ year) :
    rule.changesIn year = if rule.starts.month < rule.ends.month
      then [rule.stopIn year, rule.startIn year] else [rule.startIn year, rule.stopIn year] := by
  rw [changesIn_eq]
  rcases husual.apart_in_year hyear with ⟨hmonths, hapart⟩ | ⟨hmonths, hapart⟩
  · unfold Change.Apart at hapart
    rw [if_pos (by omega), if_pos hmonths]
  · unfold Change.Apart at hapart
    rw [if_neg (by omega), if_neg (by omega)]

theorem pairwise_changesIn {year : Nat} (hyear : 1 ≤ year) :
    (rule.changesIn year).Pairwise Change.Apart := by
  rw [husual.changesIn_eq_of_months hyear]
  rcases husual.apart_in_year hyear with ⟨hmonths, hapart⟩ | ⟨hmonths, hapart⟩
  · rw [if_pos hmonths]
    exact List.pairwise_pair.2 hapart
  · rw [if_neg (by omega)]
    exact List.pairwise_pair.2 hapart

theorem inYears_of_mem_changesFrom {first count : Nat} (hfirst : 1 ≤ first) {change : Change}
    (hmem : change ∈ rule.changesFrom first count) : change.InYears first (first + count) := by
  induction count with
  | zero => cases hmem
  | succ count ih =>
    rcases List.mem_append.1 hmem with hyear | hearlier
    · obtain ⟨month, hge, hlt, hmonth, hnear⟩ := husual.inYears_of_mem_changesIn (by omega) hyear
      exact ⟨month, by omega, by omega, hmonth, hnear⟩
    · obtain ⟨month, hge, hlt, hmonth, hnear⟩ := ih hearlier
      exact ⟨month, hge, by omega, hmonth, hnear⟩

theorem pairwise_changesFrom {first : Nat} (hfirst : 1 ≤ first) (count : Nat) :
    (rule.changesFrom first count).Pairwise Change.Apart := by
  induction count with
  | zero => exact List.Pairwise.nil
  | succ count ih =>
    refine List.pairwise_append.2 ⟨husual.pairwise_changesIn (by omega), ih, ?_⟩
    intro newer hnewer older holder
    have holderYears := husual.inYears_of_mem_changesFrom hfirst holder
    have hnewerYear := husual.inYears_of_mem_changesIn (by omega) hnewer
    exact holderYears.apart hfirst hnewerYear

end AnnualRule.IsUsual

namespace Zone

open MinuteZone (firstInstant)

/-- The offsets of a zone's phases. -/
def offsets (zone : Zone) : List Int :=
  (match zone.rule with
    | some rule => [rule.standard.offset, rule.daylight.offset]
    | none => []) ++ zone.history.map (·.after.offset) ++ [zone.initial.offset]

/-- What the tables of a zone keep to: no two changes of its history come within two days of each other or of
    the first change that its annual rule could bring, none comes right after short tables begin, none puts the
    clock back by more than a day, and no offset exceeds 18 hours. -/
@[mk_iff] structure IsRegular (zone : Zone) : Prop where
  history : zone.history.IsChain Change.Apart
  start : ∀ change ∈ zone.history, change.instant < firstInstant ∨ firstInstant + 172800 ≤ change.instant
  year : 1 ≤ zone.ruleYear
  rule : ∀ rule ∈ zone.rule, rule.IsUsual
  between : ∀ change ∈ zone.history, zone.rule.isSome →
    change.instant + 864000 ≤ monthSecond (12 * zone.ruleYear)
  back : ∀ change ∈ zone.history, change.before.offset - change.after.offset ≤ 86400
  offsets : ∀ offset ∈ zone.offsets, -64800 ≤ offset ∧ offset ≤ 64800
  unchanged : zone.origin = none → zone.history = [] ∧ zone.rule = none

instance (zone : Zone) : Decidable zone.IsRegular := decidable_of_iff _ (zone.isRegular_iff).symm

namespace IsRegular

variable {zone : Zone} (hregular : zone.IsRegular)

include hregular

theorem pairwise_changesThrough (year : Nat) : (zone.changesThrough year).Pairwise Change.Apart := by
  have hhistory := hregular.history.pairwise
  unfold changesThrough
  cases hrule : zone.rule with
  | none => exact hhistory
  | some rule =>
    have husual := hregular.rule rule hrule
    refine List.pairwise_append.2 ⟨husual.pairwise_changesFrom hregular.year _, hhistory, ?_⟩
    intro newer hnewer older holder
    have hbefore := hregular.between older holder (by rw [hrule]; rfl)
    obtain ⟨month, hge, -, -, hnear, -⟩ := husual.inYears_of_mem_changesFrom hregular.year hnewer
    have hyear := hregular.year
    have hmonth := monthSecond_mono (by omega) hge
    unfold Change.Apart
    omega

/-- Short tables begin in the middle of a December. -/
theorem start_of_mem_changesThrough {year : Nat} {change : Change}
    (hmem : change ∈ zone.changesThrough year) :
    change.instant < firstInstant ∨ firstInstant + 172800 ≤ change.instant := by
  have hdecember : monthSecond 22823 + 691200 < firstInstant ∧
      firstInstant + 864000 < monthSecond 22824 := by
    decide
  unfold changesThrough at hmem
  cases hrule : zone.rule with
  | none =>
    rw [hrule] at hmem
    exact hregular.start change hmem
  | some rule =>
    rw [hrule] at hmem
    rcases List.mem_append.1 hmem with hannual | hpast
    · have hyear := hregular.year
      obtain ⟨month, hge, -, hmonth, hlower, hupper⟩ :=
        (hregular.rule rule hrule).inYears_of_mem_changesFrom hyear hannual
      rcases Nat.lt_or_gt_of_ne (show month ≠ 22823 by omega) with hearly | hlate
      · have := monthSecond_mono (show 12 ≤ month + 1 by omega) (show month + 1 ≤ 22823 by omega)
        omega
      · have := monthSecond_mono (show 12 ≤ 22824 by omega) (show 22824 ≤ month by omega)
        omega
    · exact hregular.start change hpast

/-- No change puts the clock back by more than a day. -/
theorem back_of_mem_changesThrough {year : Nat} {change : Change} (hmem : change ∈ zone.changesThrough year) :
    change.before.offset - change.after.offset ≤ 86400 := by
  unfold changesThrough at hmem
  cases hrule : zone.rule with
  | none =>
    rw [hrule] at hmem
    exact hregular.back change hmem
  | some rule =>
    rw [hrule] at hmem
    rcases List.mem_append.1 hmem with hannual | hpast
    · obtain ⟨hfewest, hmost⟩ := (hregular.rule rule hrule).saving
      obtain ⟨year, rfl | rfl⟩ := AnnualRule.exists_of_mem_changesFrom hannual
      · change rule.standard.offset - rule.daylight.offset ≤ 86400
        omega
      · exact hmost
    · exact hregular.back change hpast

end IsRegular

/-- Every change that is looked at brings one of the zone's offsets. -/
theorem offset_mem_of_mem_changesThrough {zone : Zone} {year : Nat} {change : Change}
    (hmem : change ∈ zone.changesThrough year) : change.after.offset ∈ zone.offsets := by
  unfold changesThrough at hmem
  unfold offsets
  cases hrule : zone.rule with
  | none =>
    rw [hrule] at hmem
    exact List.mem_append_left _ (List.mem_append_right _ (List.mem_map_of_mem hmem))
  | some rule =>
    rw [hrule] at hmem
    rcases List.mem_append.1 hmem with hannual | hpast
    · obtain ⟨year, rfl | rfl⟩ := AnnualRule.exists_of_mem_changesFrom hannual
      · simp [AnnualRule.startIn]
      · simp [AnnualRule.stopIn]
    · exact List.mem_append_left _ (List.mem_append_right _ (List.mem_map_of_mem hpast))

theorem initial_offset_mem (zone : Zone) : zone.initial.offset ∈ zone.offsets :=
  List.mem_append_right _ (List.mem_singleton_self _)

theorem phaseOf_offset_mem (zone : Zone) (civil : Civil) (fold : Bool) :
    (zone.phaseOf civil fold).offset ∈ zone.offsets := by
  unfold phaseOf
  dsimp only
  rw [newest?_eq_find?]
  split
  · next change hfound => exact offset_mem_of_mem_changesThrough (List.mem_of_find?_eq_some hfound)
  · exact zone.initial_offset_mem

end Zone

end Recurrence
