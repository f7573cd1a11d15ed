import Recurrence.Moment.Literal
import Recurrence.Proofs.Calendar.DayNumber
import Recurrence.Proofs.Text.Search

namespace Recurrence

theorem TimeOfDay.ofFields_eq_ok_iff {hour minute second micro : Nat} {time : TimeOfDay} :
    ofFields hour minute second micro = .ok time ↔
      time.hour = hour ∧ time.minute = minute ∧ time.second = second ∧
        time.micro = micro % 1000000 := by
  constructor
  · intro hfields
    unfold ofFields at hfields
    split at hfields
    · split at hfields
      · split at hfields
        · cases hfields
          exact ⟨rfl, rfl, rfl, rfl⟩
        · cases hfields
      · cases hfields
    · cases hfields
  · rintro ⟨rfl, rfl, rfl, hmicro⟩
    rw [ofFields, dif_pos time.hour_lt, dif_pos time.minute_lt, dif_pos time.second_lt]
    exact congrArg Except.ok (TimeOfDay.ext rfl rfl rfl hmicro.symm)

namespace Civil

theorem ofFields_eq_ok_iff {year month day hour minute second micro : Nat} {civil : Civil} :
    ofFields year month day hour minute second micro = .ok civil ↔
      Date.ofFields year month day = .ok civil.date ∧
        TimeOfDay.ofFields hour minute second micro = .ok civil.time := by
  unfold ofFields
  cases Date.ofFields year month day with
  | error cause => simp [bind, Except.bind]
  | ok date =>
    cases TimeOfDay.ofFields hour minute second micro with
    | error cause => simp [bind, Except.bind]
    | ok time => cases civil; simp [bind, Except.bind, pure, Except.pure]

end Civil

/-- A text that starts with so many digits, which write a number, and what follows them. -/
def StartsWithNumber (count : Nat) (text : List Char) (number : Nat) (rest : List Char) : Prop :=
  ∃ digits, text = digits ++ rest ∧ digits.length = count ∧ (∀ c ∈ digits, Text.isDigit c = true) ∧
    Text.ofDigits digits = number

theorem takeNumber_eq_some_iff {count number : Nat} {text rest : List Char} :
    takeNumber count text = some (number, rest) ↔ StartsWithNumber count text number rest := by
  unfold takeNumber
  rw [Option.map_eq_some_iff]
  constructor
  · rintro ⟨⟨digits, more⟩, htake, hsame⟩
    obtain ⟨htext, hlength, hdigits⟩ := Text.takeDigits_eq_some_iff.1 htake
    cases hsame
    exact ⟨digits, htext, hlength, hdigits, rfl⟩
  · rintro ⟨digits, htext, hlength, hdigits, rfl⟩
    exact ⟨(digits, rest), Text.takeDigits_eq_some_iff.2 ⟨htext, hlength, hdigits⟩, rfl⟩

/-- The pairs of digits that a text starts with, as far as they go and not more than so many. -/
inductive StartsWithPairs : (most : Nat) → (text : List Char) → (numbers : List Nat) → Prop where
  | enough {text : List Char} : StartsWithPairs 0 text []
  | ended {most : Nat} {text : List Char} (hended : ∀ number rest, ¬ StartsWithNumber 2 text number rest) :
      StartsWithPairs (most + 1) text []
  | pair {most number : Nat} {text rest : List Char} {numbers : List Nat}
      (hpair : StartsWithNumber 2 text number rest) (hrest : StartsWithPairs most rest numbers) :
      StartsWithPairs (most + 1) text (number :: numbers)

theorem startsWithPairs_takePairs (most : Nat) (text : List Char) :
    StartsWithPairs most text (takePairs most text) := by
  induction most generalizing text with
  | zero => exact .enough
  | succ most ih =>
    rw [takePairs]
    split
    · next number rest htake => exact .pair (takeNumber_eq_some_iff.1 htake) (ih rest)
    · next hnone =>
      apply StartsWithPairs.ended
      intro number rest hpair
      rw [takeNumber_eq_some_iff.2 hpair] at hnone
      cases hnone

theorem StartsWithPairs.takePairs_eq {most : Nat} {text : List Char} {numbers : List Nat}
    (hpairs : StartsWithPairs most text numbers) : takePairs most text = numbers := by
  induction hpairs with
  | enough => rfl
  | @ended most text hended =>
    rw [takePairs]
    split
    · next number rest htake => exact absurd (takeNumber_eq_some_iff.1 htake) (hended number rest)
    · rfl
  | @pair most number text rest numbers hpair hrest ih =>
    rw [takePairs, takeNumber_eq_some_iff.2 hpair]
    dsimp only
    rw [ih]

namespace CompactFields

/-- The pairs of digits of a time of day after a date: none unless a `T` stands before them. -/
def ClockBegins (text : List Char) (groups : List Nat) : Prop :=
  (∃ time, text = 'T' :: time ∧ StartsWithPairs 3 time groups) ∨ (text.head? ≠ some 'T' ∧ groups = [])

/-- A text that starts with a compact civil time: four digits of the year, two of the month and two of the
    day, then the time of day as far as it goes. -/
def Begins (text : List Char) (fields : CompactFields) : Prop :=
  ∃ afterYear afterMonth afterDay groups, StartsWithNumber 4 text fields.year afterYear ∧
    StartsWithNumber 2 afterYear fields.month afterMonth ∧
    StartsWithNumber 2 afterMonth fields.day afterDay ∧ ClockBegins afterDay groups ∧
    fields.hour = groups.getD 0 0 ∧ fields.minute = groups.getD 1 0 ∧ fields.second = groups.getD 2 0

/-- The civil time that fields mean where those of the time of day that are zero are replaced. -/
structure Means (fields : CompactFields) (defaults : ClockDefaults) (civil : Civil) : Prop where
  year : civil.date.year = fields.year
  month : civil.date.month = fields.month
  day : civil.date.day = fields.day
  hour : (civil.time.hour : Int) = if fields.hour = 0 then defaults.hour else fields.hour
  minute : (civil.time.minute : Int) = if fields.minute = 0 then defaults.minute else fields.minute
  second : (civil.time.second : Int) = if fields.second = 0 then defaults.second else fields.second
  micro : civil.time.micro = 0

theorem Begins.isDigit_of_mem_take {text : List Char} {fields : CompactFields} (hbegins : Begins text fields) :
    ∀ c ∈ text.take 8, Text.isDigit c = true := by
  obtain ⟨_, _, rest, _, ⟨year, rfl, hyearLength, hyear, -⟩, ⟨month, rfl, hmonthLength, hmonth, -⟩,
    ⟨day, rfl, hdayLength, hday, -⟩, -⟩ := hbegins
  have hlength : (year ++ (month ++ day)).length = 8 := by
    rw [List.length_append, List.length_append, hyearLength, hmonthLength, hdayLength]
  rw [← List.append_assoc month, ← List.append_assoc, List.take_left' hlength]
  intro c hc
  simp only [List.mem_append] at hc
  rcases hc with hc | hc | hc
  · exact hyear c hc
  · exact hmonth c hc
  · exact hday c hc

theorem clockBegins_iff {text : List Char} {groups : List Nat} :
    (match text with
      | 'T' :: time => takePairs 3 time
      | _ => []) = groups ↔ ClockBegins text groups := by
  unfold ClockBegins
  split
  · next time =>
    constructor
    · rintro rfl
      exact Or.inl ⟨time, rfl, startsWithPairs_takePairs 3 time⟩
    · rintro (⟨_, hsame, hpairs⟩ | ⟨hhead, -⟩)
      · cases hsame
        exact hpairs.takePairs_eq
      · exact absurd rfl hhead
  · next hhead =>
    constructor
    · rintro rfl
      refine Or.inr ⟨fun hstart => ?_, rfl⟩
      obtain ⟨time, rfl⟩ := List.head?_eq_some_iff.1 hstart
      exact hhead time rfl
    · rintro (⟨time, rfl, -⟩ | ⟨-, hgroups⟩)
      · exact absurd rfl (hhead time)
      · exact hgroups.symm

theorem read?_eq_some_iff {text : List Char} {fields : CompactFields} :
    read? text = some fields ↔ Begins text fields := by
  simp only [read?, Begins, bind, Option.bind_eq_some_iff, Prod.exists, takeNumber_eq_some_iff, pure,
    Option.some.injEq, ← clockBegins_iff]
  constructor
  · rintro ⟨year, afterYear, hyear, month, afterMonth, hmonth, day, afterDay, hday, rfl⟩
    exact ⟨afterYear, afterMonth, afterDay, _, hyear, hmonth, hday, rfl, rfl, rfl, rfl⟩
  · obtain ⟨year, month, day, hour, minute, second⟩ := fields
    rintro ⟨afterYear, afterMonth, afterDay, _, hyear, hmonth, hday, rfl, rfl, rfl, rfl⟩
    exact ⟨year, afterYear, hyear, month, afterMonth, hmonth, day, afterDay, hday, rfl⟩

end CompactFields

theorem ClockDefaults.choose_eq_iff {limit field value : Nat} {default : Int} (hvalue : value < limit) :
    value = choose limit field default ↔ (value : Int) = if field = 0 then default else field := by
  unfold choose
  split
  · split <;> omega
  · omega

/-- A compact literal is read as the civil time that its fields mean, and only if they mean one. -/
theorem readCompact_eq_ok_iff {text : String} {defaults : ClockDefaults} {civil : Civil} :
    readCompact text defaults = .ok civil ↔
      ∃ fields, CompactFields.Begins text.toList fields ∧ fields.Means defaults civil := by
  simp only [← CompactFields.read?_eq_some_iff]
  unfold readCompact
  cases CompactFields.read? text.toList with
  | none => simp
  | some fields =>
    simp only [Option.some.injEq, exists_eq_left']
    rw [mapError_eq_ok_iff, Civil.ofFields_eq_ok_iff, Date.ofFields_eq_ok_iff,
      TimeOfDay.ofFields_eq_ok_iff, ClockDefaults.choose_eq_iff civil.time.hour_lt,
      ClockDefaults.choose_eq_iff civil.time.minute_lt, ClockDefaults.choose_eq_iff civil.time.second_lt]
    constructor
    · rintro ⟨⟨hyear, hmonth, hday⟩, hhour, hminute, hsecond, hmicro⟩
      exact ⟨hyear, hmonth, hday, hhour, hminute, hsecond, hmicro⟩
    · rintro ⟨hyear, hmonth, hday, hhour, hminute, hsecond, hmicro⟩
      exact ⟨⟨hyear, hmonth, hday⟩, hhour, hminute, hsecond, hmicro⟩

end Recurrence
