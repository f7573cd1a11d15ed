import Recurrence.Proofs.Zone.Timetable

namespace Recurrence

/-- The phase in which every year of an annual rule begins and ends. -/
def AnnualRule.opening (rule : AnnualRule) : Phase :=
  if rule.starts.month < rule.ends.month then rule.standard else rule.daylight

namespace AnnualRule.IsUsual

variable {rule : AnnualRule} (husual : rule.IsUsual)

include husual

theorem linked_changesIn {year : Nat} (hyear : 1 ≤ year) :
    Linked rule.opening (rule.changesIn year) ∧
      latestPhase rule.opening (rule.changesIn year) = rule.opening := by
  rw [husual.changesIn_eq_of_months hyear, opening]
  split
  · exact ⟨⟨rfl, rfl, trivial⟩, rfl⟩
  · exact ⟨⟨rfl, rfl, trivial⟩, rfl⟩

theorem linked_changesFrom {first : Nat} (hfirst : 1 ≤ first) (count : Nat) :
    Linked rule.opening (rule.changesFrom first count) ∧
      latestPhase rule.opening (rule.changesFrom first count) = rule.opening := by
  induction count with
  | zero => exact ⟨trivial, rfl⟩
  | succ count ih =>
    obtain ⟨holder, hopening⟩ := ih
    obtain ⟨hyear, hclosing⟩ := husual.linked_changesIn (show 1 ≤ first + count by omega)
    rw [changesFrom, latestPhase_append, hopening]
    exact ⟨linked_append (by rwa [hopening]) holder, hclosing⟩

/-- Following a rule for longer adds changes of the years after. -/
theorem exists_changesFrom_eq_append {first : Nat} (hfirst : 1 ≤ first) {count more : Nat}
    (hmore : count ≤ more) :
    ∃ newer, rule.changesFrom first more = newer ++ rule.changesFrom first count ∧
      ∀ change ∈ newer, monthSecond (12 * (first + count)) - 691200 ≤ change.instant := by
  induction more with
  | zero =>
    obtain rfl : count = 0 := by omega
    exact ⟨[], rfl, nofun⟩
  | succ more ih =>
    rcases Nat.eq_or_lt_of_le hmore with rfl | hless
    · exact ⟨[], rfl, nofun⟩
    · obtain ⟨newer, hnewer, hlate⟩ := ih (Nat.le_of_lt_succ hless)
      refine ⟨rule.changesIn (first + more) ++ newer, ?_, fun change hmem => ?_⟩
      · rw [changesFrom, hnewer, List.append_assoc]
      · rcases List.mem_append.1 hmem with hyear | hmem
        · obtain ⟨month, hge, -, -, hnear, -⟩ := husual.inYears_of_mem_changesIn (by omega) hyear
          have hmonth := monthSecond_mono (show 12 ≤ 12 * (first + count) by omega)
            (show 12 * (first + count) ≤ month by omega)
          omega
        · exact hlate change hmem

end AnnualRule.IsUsual

namespace Zone

/-- A zone whose changes join, through its history and from there on through its annual rule. -/
structure IsJoined (zone : Zone) : Prop extends zone.IsRegular where
  linked : Linked zone.initial zone.history
  opening : ∀ rule ∈ zone.rule, rule.opening = latestPhase zone.initial zone.history

/-- The phase that the newest change with a property has brought. -/
def phaseBy (initial : Phase) (changes : List Change) (p : Change → Bool) : Phase :=
  ((changes.find? p).map (·.after)).getD initial

theorem phaseOf_eq_phaseBy (zone : Zone) (civil : Civil) (fold : Bool) :
    zone.phaseOf civil fold = phaseBy zone.initial (zone.changesThrough (civil.date.year + 1))
      fun change => change.civilSecond fold ≤ civil.epochSecond := by
  unfold phaseOf phaseBy
  dsimp only
  rw [newest?_eq_find?]
  cases (zone.changesThrough (civil.date.year + 1)).find? _ <;> rfl

/-- Whether all changes of later years come two days after a second or later. -/
def Reaches (year : Nat) (second : Int) : Prop := second + 864000 ≤ monthSecond (12 * (year + 1))

instance (year : Nat) (second : Int) : Decidable (Reaches year second) :=
  inferInstanceAs (Decidable (second + 864000 ≤ monthSecond (12 * (year + 1))))

theorem Reaches.mono {year later : Nat} {second : Int} (hreaches : Reaches year second) (hle : year ≤ later) :
    Reaches later second :=
  Int.le_trans hreaches (monthSecond_mono (by omega) (by omega))

end Zone

theorem Civil.ticks_eq (civil : Civil) :
    (civil.ticks : Int) = (civil.epochSecond + epochDay * 86400) * 1000000 + civil.time.micro := by
  unfold ticks ticksPerDay TimeOfDay.ticks epochSecond
  omega

/-- A civil time lies in its year. -/
theorem Civil.le_epochSecond (civil : Civil) : monthSecond (12 * civil.date.year) ≤ civil.epochSecond := by
  have hnumber := civil.date.dayNumber_eq
  have hpos := civil.date.day_pos
  have hyear : 12 * civil.date.year ≤ civil.date.monthIndex := by
    have := civil.date.monthIndex_div
    omega
  have hmonth := monthSecond_mono (show 12 ≤ 12 * civil.date.year by
    have := civil.date.year_pos
    omega) hyear
  unfold monthSecond at *
  unfold epochSecond
  omega

/-- A civil time lies before the next year. -/
theorem Civil.epochSecond_lt (civil : Civil) : civil.epochSecond < monthSecond (12 * (civil.date.year + 1)) := by
  have hday := civil.date.day_le_monthLength
  have hnumber := civil.date.dayNumber_eq
  have hmonth : civil.date.monthIndex < 12 * (civil.date.year + 1) := by
    have := civil.date.monthIndex_div
    omega
  have hnext := Date.monthStart_add_length_le civil.date.monthIndex_ge hmonth
  have htime := civil.time.ticks_lt
  unfold TimeOfDay.ticks at htime
  unfold epochSecond monthSecond
  omega

theorem Zone.reaches_of_lt {civil : Civil} {year : Nat} (hyear : civil.date.year < year) :
    Reaches year civil.epochSecond := by
  have hbefore := civil.epochSecond_lt
  have hmonth := monthSecond_add_le (show 12 ≤ 12 * (civil.date.year + 1) by omega)
    (show 12 * (civil.date.year + 1) < 12 * (year + 1) by omega)
  unfold Reaches
  omega

namespace Zone.IsJoined

variable {zone : Zone} (hjoined : zone.IsJoined)

include hjoined

theorem linked_changesThrough (year : Nat) : Linked zone.initial (zone.changesThrough year) := by
  unfold changesThrough
  cases hrule : zone.rule with
  | none => exact hjoined.linked
  | some rule =>
    have hopening := hjoined.opening rule hrule
    apply linked_append _ hjoined.linked
    rw [← hopening]
    exact ((hjoined.rule rule hrule).linked_changesFrom hjoined.year _).1

theorem exists_changesThrough_eq_append {year later : Nat} (hle : year ≤ later) :
    ∃ newer, zone.changesThrough later = newer ++ zone.changesThrough year ∧
      ∀ change ∈ newer, monthSecond (12 * (year + 1)) - 691200 ≤ change.instant := by
  unfold changesThrough
  cases hrule : zone.rule with
  | none => exact ⟨[], rfl, nofun⟩
  | some rule =>
    obtain ⟨newer, hnewer, hlate⟩ := (hjoined.rule rule hrule).exists_changesFrom_eq_append hjoined.year
      (show year + 1 - zone.ruleYear ≤ later + 1 - zone.ruleYear by omega)
    refine ⟨newer, ?_, fun change hmem => ?_⟩
    · dsimp only
      rw [hnewer, List.append_assoc]
    · have hmonth := monthSecond_mono (show 12 ≤ 12 * (year + 1) by omega)
        (show 12 * (year + 1) ≤ 12 * (zone.ruleYear + (year + 1 - zone.ruleYear)) by omega)
      exact Int.le_trans (Int.sub_le_sub_right hmonth _) (hlate change hmem)

/-- Later years bring no change that a second is looked up in. -/
theorem find?_changesThrough {p : Change → Bool} {year later : Nat} (hle : year ≤ later)
    (hlate : ∀ change ∈ zone.changesThrough later,
      monthSecond (12 * (year + 1)) - 691200 ≤ change.instant → p change = false) :
    (zone.changesThrough later).find? p = (zone.changesThrough year).find? p := by
  obtain ⟨newer, hnewer, hinstants⟩ := hjoined.exists_changesThrough_eq_append hle
  have hnone : newer.find? p = none := by
    rw [List.find?_eq_none]
    intro change hmem
    rw [Bool.not_eq_true]
    apply hlate change _ (hinstants change hmem)
    rw [hnewer]
    exact List.mem_append_left _ hmem
  rw [hnewer, List.find?_append, hnone, Option.none_or]

end Zone.IsJoined

/-- The timetable of a zone's changes up to the end of a year. -/
def Zone.timetable (zone : Zone) (hjoined : zone.IsJoined) (year : Nat) : Timetable where
  initial := zone.initial
  changes := zone.changesThrough year
  apart := hjoined.pairwise_changesThrough year
  linked := hjoined.linked_changesThrough year
  initial_between := hjoined.offsets _ zone.initial_offset_mem
  after_between _ hmem := hjoined.offsets _ (offset_mem_of_mem_changesThrough hmem)

namespace Zone

variable {zone : Zone} (hjoined : zone.IsJoined) {year later : Nat} {second : Int}

theorem lastAt?_timetable (hle : year ≤ later) (hreaches : Reaches year second) :
    (zone.timetable hjoined later).lastAt? second = (zone.timetable hjoined year).lastAt? second := by
  apply hjoined.find?_changesThrough hle
  intro change _ hlate
  unfold Reaches at hreaches
  rw [decide_eq_false_iff_not]
  omega

theorem phaseAt_timetable (hle : year ≤ later) (hreaches : Reaches year second) :
    (zone.timetable hjoined later).phaseAt second = (zone.timetable hjoined year).phaseAt second := by
  rw [Timetable.phaseAt, Timetable.phaseAt, lastAt?_timetable hjoined hle hreaches]
  rfl

theorem phaseOf_timetable (hle : year ≤ later) (hreaches : Reaches year second) (fold : Bool) :
    (zone.timetable hjoined later).phaseOf second fold = (zone.timetable hjoined year).phaseOf second fold := by
  have hfind : (zone.changesThrough later).find? (·.civilSecond fold ≤ second) =
      (zone.changesThrough year).find? (·.civilSecond fold ≤ second) := by
    apply hjoined.find?_changesThrough hle
    intro change hmem hlate
    have hbefore := (zone.timetable hjoined later).before_between hmem
    have hafter := (zone.timetable hjoined later).after_between change hmem
    unfold Reaches at hreaches
    unfold Change.civilSecond
    rw [decide_eq_false_iff_not]
    split <;> omega
  unfold Timetable.phaseOf
  exact congrArg (fun found : Option Change => (found.map (·.after)).getD zone.initial) hfind

/-- A zone shows an instant as its timetable of the years up to the next one, or of more. -/
theorem lastChange?_eq {utc : Civil} (hyear : utc.date.year < year) :
    zone.lastChange? utc = (zone.timetable hjoined year).lastAt? utc.epochSecond := by
  rw [lastAt?_timetable hjoined hyear (reaches_of_lt (Nat.lt_succ_self _))]
  exact newest?_eq_find? zone _ _

theorem phaseAt_eq {utc : Civil} (hyear : utc.date.year < year) :
    zone.phaseAt utc = (zone.timetable hjoined year).phaseAt utc.epochSecond := by
  rw [phaseAt, Timetable.phaseAt, lastChange?_eq hjoined hyear]
  cases (zone.timetable hjoined year).lastAt? utc.epochSecond <;> rfl

theorem foldAt_eq {utc : Civil} (hyear : utc.date.year < year) :
    zone.foldAt utc = (zone.timetable hjoined year).foldAt utc.epochSecond := by
  rw [foldAt, Timetable.foldAt, lastChange?_eq hjoined hyear]
  cases (zone.timetable hjoined year).lastAt? utc.epochSecond <;> rfl

theorem phaseOf_eq {civil : Civil} (hyear : civil.date.year < year) (fold : Bool) :
    zone.phaseOf civil fold = (zone.timetable hjoined year).phaseOf civil.epochSecond fold := by
  rw [phaseOf_timetable hjoined hyear (reaches_of_lt (Nat.lt_succ_self _)), phaseOf_eq_phaseBy]
  rfl

end Zone

end Recurrence
