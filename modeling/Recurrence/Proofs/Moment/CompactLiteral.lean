import Recurrence.Proofs.Moment.CompactText

namespace Recurrence

/-- So many decimal digits, of any script. -/
structure DigitGroup (width : Nat) where
  digits : List Char
  length_eq : digits.length = width
  isDigit : ∀ c ∈ digits, Text.isDigit c = true

namespace DigitGroup

variable {width : Nat}

/-- The number that the digits write. -/
def number (group : DigitGroup width) : Nat := Text.ofDigits group.digits

theorem startsWithNumber (group : DigitGroup width) (rest : List Char) :
    StartsWithNumber width (group.digits ++ rest) group.number rest :=
  ⟨group.digits, rfl, group.length_eq, group.isDigit, rfl⟩

/-- The Latin digits of a number. -/
def ofNumeral {number : Nat} {digits : List Char} (hdigits : Text.IsNumeral width digits number) :
    DigitGroup width where
  digits := digits
  length_eq := hdigits.length
  isDigit := fun c hc => Text.isDigit_of_latin (hdigits.latin c hc)

theorem number_ofNumeral {number : Nat} {digits : List Char}
    (hdigits : Text.IsNumeral width digits number) : (ofNumeral hdigits).number = number := by
  change Text.ofDigits digits = number
  rw [Text.ofDigits_of_latin hdigits.latin, hdigits.value]

/-- The first digits of a group, and those behind them. -/
theorem exists_append {front back : Nat} (group : DigitGroup (front + back)) :
    ∃ (first : DigitGroup front) (second : DigitGroup back), group.digits = first.digits ++ second.digits := by
  have hlength := group.length_eq
  have hfirst : (group.digits.take front).length = front := by
    rw [List.length_take]
    omega
  have hsecond : (group.digits.drop front).length = back := by
    rw [List.length_drop]
    omega
  exact ⟨⟨group.digits.take front, hfirst, fun c hc => group.isDigit c (List.mem_of_mem_take hc)⟩,
    ⟨group.digits.drop front, hsecond, fun c hc => group.isDigit c (List.mem_of_mem_drop hc)⟩,
    (List.take_append_drop front group.digits).symm⟩

end DigitGroup

theorem StartsWithNumber.exists_group {width number : Nat} {text rest : List Char}
    (hstarts : StartsWithNumber width text number rest) :
    ∃ group : DigitGroup width, text = group.digits ++ rest := by
  obtain ⟨digits, htext, hlength, hdigits, -⟩ := hstarts
  exact ⟨⟨digits, hlength, hdigits⟩, htext⟩

theorem StartsWithNumber.append {front back first second : Nat} {text middle rest : List Char}
    (hfront : StartsWithNumber front text first middle) (hback : StartsWithNumber back middle second rest) :
    ∃ number, StartsWithNumber (front + back) text number rest := by
  obtain ⟨left, rfl, hleftLength, hleft, -⟩ := hfront
  obtain ⟨right, rfl, hrightLength, hright, -⟩ := hback
  exact ⟨_, left ++ right, (List.append_assoc left right rest).symm,
    by rw [List.length_append, hleftLength, hrightLength], List.forall_mem_append.2 ⟨hleft, hright⟩, rfl⟩

/-- Behind so many pairs there is room for another one, and the text has it. -/
def MorePairs (most : Nat) (pairs : List (DigitGroup 2)) (tail : List Char) : Prop :=
  pairs.length < most ∧ ∃ number rest, StartsWithNumber 2 tail number rest

theorem startsWithPairs_append {most : Nat} {pairs : List (DigitGroup 2)} {tail : List Char}
    (hmost : pairs.length ≤ most) (hends : ¬ MorePairs most pairs tail) :
    StartsWithPairs most (pairs.flatMap DigitGroup.digits ++ tail) (pairs.map DigitGroup.number) := by
  -- Each pair takes up a place, so that what may not follow the last one depends on the places that are left.
  induction pairs generalizing most with
  | nil =>
    cases most with
    | zero => exact .enough
    | succ most =>
      exact .ended fun number rest hpair => hends ⟨Nat.zero_lt_succ most, number, rest, hpair⟩
  | cons pair pairs ih =>
    cases most with
    | zero => exact absurd hmost (Nat.not_succ_le_zero pairs.length)
    | succ most =>
      rw [List.flatMap_cons, List.append_assoc, List.map_cons]
      refine .pair (pair.startsWithNumber _) (ih (Nat.le_of_succ_le_succ hmost) ?_)
      rintro ⟨hfewer, hmore⟩
      exact hends ⟨Nat.succ_lt_succ hfewer, hmore⟩

theorem StartsWithPairs.exists_pairs {most : Nat} {text : List Char} {numbers : List Nat}
    (hpairs : StartsWithPairs most text numbers) :
    ∃ (pairs : List (DigitGroup 2)) (tail : List Char), text = pairs.flatMap DigitGroup.digits ++ tail ∧
      pairs.length ≤ most ∧ ¬ MorePairs most pairs tail := by
  induction hpairs with
  | @enough text => exact ⟨[], text, rfl, Nat.le_refl 0, fun hmore => absurd hmore.1 (Nat.lt_irrefl 0)⟩
  | @ended most text hended =>
    refine ⟨[], text, rfl, Nat.zero_le _, ?_⟩
    rintro ⟨-, number, rest, hpair⟩
    exact hended number rest hpair
  | pair hpair _ ih =>
    obtain ⟨pair, rfl⟩ := hpair.exists_group
    obtain ⟨pairs, tail, rfl, hmost, hends⟩ := ih
    refine ⟨pair :: pairs, tail, ?_, Nat.succ_le_succ hmost, ?_⟩
    · rw [List.flatMap_cons, List.append_assoc]
    · rintro ⟨hfewer, hmore⟩
      exact hends ⟨Nat.lt_of_succ_lt_succ hfewer, hmore⟩

/-- A compact literal: a date, then perhaps a mark, with the first of hour, minute and second behind it. -/
structure CompactLiteral where
  year : DigitGroup 4
  month : DigitGroup 2
  day : DigitGroup 2
  /-- What stands behind the mark; `none` without a mark. -/
  clock : Option (List (DigitGroup 2))
  clock_le : ∀ groups, clock = some groups → groups.length ≤ 3

namespace CompactLiteral

/-- The number of a group of the time of day, counted from the hour, if it is written. -/
def group? (literal : CompactLiteral) (place : Nat) : Option Nat :=
  (literal.clock.getD [])[place]?.map DigitGroup.number

/-- The written form of the time of day. -/
def clockChars (literal : CompactLiteral) : List Char :=
  match literal.clock with
  | none => []
  | some groups => 'T' :: groups.flatMap DigitGroup.digits

/-- The written form, with what follows it. -/
def followedBy (literal : CompactLiteral) (tail : List Char) : String :=
  String.ofList (literal.year.digits ++ (literal.month.digits ++ (literal.day.digits ++
    (literal.clockChars ++ tail))))

/-- A text behind a literal that belongs to it: the mark that it lacks, or a pair of digits more. -/
def ContinuedBy (literal : CompactLiteral) (tail : List Char) : Prop :=
  match literal.clock with
  | none => tail.head? = some 'T'
  | some groups => MorePairs 3 groups tail

/-- The numbers of the groups. -/
def fields (literal : CompactLiteral) : CompactFields where
  year := literal.year.number
  month := literal.month.number
  day := literal.day.number
  hour := (literal.group? 0).getD 0
  minute := (literal.group? 1).getD 0
  second := (literal.group? 2).getD 0

/-- What continues a literal starts with a digit, or with the mark that it lacks. -/
theorem ContinuedBy.head {literal : CompactLiteral} {tail : List Char} (hmore : literal.ContinuedBy tail) :
    ∃ c, tail.head? = some c ∧ (Text.isDigit c = true ∨ literal.clock = none ∧ c = 'T') := by
  unfold ContinuedBy at hmore
  split at hmore
  · next hclock => exact ⟨'T', hmore, Or.inr ⟨hclock, rfl⟩⟩
  · obtain ⟨-, number, rest, digits, rfl, hlength, hdigits, -⟩ := hmore
    obtain ⟨c, digits, rfl⟩ := List.exists_cons_of_length_pos (hlength ▸ Nat.zero_lt_two)
    exact ⟨c, rfl, Or.inl (hdigits c List.mem_cons_self)⟩

theorem clockBegins {literal : CompactLiteral} {tail : List Char} (hends : ¬ literal.ContinuedBy tail) :
    CompactFields.ClockBegins (literal.clockChars ++ tail)
      ((literal.clock.getD []).map DigitGroup.number) := by
  unfold ContinuedBy at hends
  unfold clockChars
  cases hclock : literal.clock with
  | none =>
    rw [hclock] at hends
    exact Or.inr ⟨hends, rfl⟩
  | some groups =>
    rw [hclock] at hends
    exact Or.inl ⟨_, rfl, startsWithPairs_append (literal.clock_le groups hclock) hends⟩

/-- A literal is read as far as it goes, whatever else follows it. -/
theorem begins {literal : CompactLiteral} {tail : List Char} (hends : ¬ literal.ContinuedBy tail) :
    CompactFields.Begins (literal.followedBy tail).toList literal.fields := by
  have hgroup : ∀ place, (literal.group? place).getD 0 =
      ((literal.clock.getD []).map DigitGroup.number).getD place 0 := by
    intro place
    rw [group?, List.getD_eq_getElem?_getD, List.getElem?_map]
  rw [followedBy, String.toList_ofList]
  exact ⟨_, _, _, _, literal.year.startsWithNumber _, literal.month.startsWithNumber _,
    literal.day.startsWithNumber _, clockBegins hends, hgroup 0, hgroup 1, hgroup 2⟩

/-- The literal writes a civil time: its date, and its time of day as far as there are groups. -/
structure Writes (literal : CompactLiteral) (civil : Civil) : Prop where
  year : literal.year.number = civil.date.year
  month : literal.month.number = civil.date.month
  day : literal.day.number = civil.date.day
  hour : ∀ number ∈ literal.group? 0, number = civil.time.hour
  minute : ∀ number ∈ literal.group? 1, number = civil.time.minute
  second : ∀ number ∈ literal.group? 2, number = civil.time.second

/-- The groups of a time of day in Latin digits. -/
def clockGroups (time : TimeOfDay) : List (DigitGroup 2) :=
  [.ofNumeral time.isNumeral_hour, .ofNumeral time.isNumeral_minute, .ofNumeral time.isNumeral_second]

theorem map_number_clockGroups (time : TimeOfDay) :
    (clockGroups time).map DigitGroup.number = [time.hour, time.minute, time.second] := by
  simp only [clockGroups, List.map_cons, List.map_nil, DigitGroup.number_ofNumeral]

/-- A civil time in Latin digits: its date alone, or with so many groups of its time of day. -/
def ofCivil (civil : Civil) (shown : Option Nat) : CompactLiteral where
  year := .ofNumeral (Text.isNumeral_padded civil.date.length_toDigits_fields.1)
  month := .ofNumeral civil.date.isNumeral_month
  day := .ofNumeral civil.date.isNumeral_day
  clock := shown.map fun count => (clockGroups civil.time).take count
  clock_le := by
    intro groups hgroups
    obtain ⟨count, -, rfl⟩ := Option.map_eq_some_iff.1 hgroups
    exact List.length_take_le' count (clockGroups civil.time)

theorem writes_ofCivil (civil : Civil) (shown : Option Nat) : (ofCivil civil shown).Writes civil := by
  have hgroup : ∀ {place number}, (ofCivil civil shown).group? place = some number →
      [civil.time.hour, civil.time.minute, civil.time.second][place]? = some number := by
    intro place number hplace
    cases shown with
    | none => cases hplace
    | some count =>
      rw [← map_number_clockGroups, List.getElem?_map]
      obtain ⟨group, hgroup, rfl⟩ := Option.map_eq_some_iff.1 hplace
      -- A group that is shown is the one that the time of day has at that place.
      have htake : ((clockGroups civil.time).take count)[place]? = some group := hgroup
      rw [List.getElem?_take] at htake
      split at htake
      · rw [htake, Option.map_some]
      · cases htake
  exact ⟨DigitGroup.number_ofNumeral (Text.isNumeral_padded civil.date.length_toDigits_fields.1),
    DigitGroup.number_ofNumeral civil.date.isNumeral_month, DigitGroup.number_ofNumeral civil.date.isNumeral_day,
    fun _ hhour => (Option.some.inj (hgroup hhour)).symm,
    fun _ hminute => (Option.some.inj (hgroup hminute)).symm,
    fun _ hsecond => (Option.some.inj (hgroup hsecond)).symm⟩

/-- A text with eight digits in front starts with a literal, taken as long as it goes. -/
theorem exists_of_startsWithNumber {text : String} {number : Nat} {rest : List Char}
    (hdate : StartsWithNumber 8 text.toList number rest) :
    ∃ literal : CompactLiteral, ∃ tail, ¬ literal.ContinuedBy tail ∧ text = literal.followedBy tail := by
  obtain ⟨date, hdate⟩ := hdate.exists_group
  obtain ⟨year, monthDay, hyear⟩ := @DigitGroup.exists_append 4 4 date
  obtain ⟨month, day, hmonthDay⟩ := @DigitGroup.exists_append 2 2 monthDay
  have hfollows : ∀ literal : CompactLiteral, ∀ tail, literal.year = year → literal.month = month →
      literal.day = day → rest = literal.clockChars ++ tail → text = literal.followedBy tail := by
    rintro literal tail rfl rfl rfl rfl
    rw [followedBy, ← String.toList_inj, String.toList_ofList, hdate, hyear, hmonthDay]
    simp only [List.append_assoc]
  -- Behind a mark, pairs belong to the literal as far as they go; without one, nothing of the rest does.
  by_cases hmark : rest.head? = some 'T'
  · obtain ⟨time, rfl⟩ := List.head?_eq_some_iff.1 hmark
    obtain ⟨pairs, tail, rfl, hmost, hends⟩ := (startsWithPairs_takePairs 3 time).exists_pairs
    have hclock : ∀ groups, some pairs = some groups → groups.length ≤ 3 := by
      rintro groups hsame
      cases hsame
      exact hmost
    exact ⟨⟨year, month, day, some pairs, hclock⟩, tail, hends, hfollows _ _ rfl rfl rfl rfl⟩
  · exact ⟨⟨year, month, day, none, nofun⟩, rest, hmark, hfollows _ _ rfl rfl rfl rfl⟩

end CompactLiteral

theorem CompactFields.Begins.startsWithNumber {text : List Char} {fields : CompactFields}
    (hbegins : Begins text fields) : ∃ number rest, StartsWithNumber 8 text number rest := by
  obtain ⟨_, _, rest, _, hyear, hmonth, hday, -⟩ := hbegins
  obtain ⟨_, hfront⟩ := hyear.append hmonth
  obtain ⟨number, hdate⟩ := hfront.append hday
  exact ⟨number, rest, hdate⟩

/-- A text with eight digits in front. -/
def OpensWithDate (text : String) : Prop := ∃ number rest, StartsWithNumber 8 text.toList number rest

theorem opensWithDate_iff {text : String} :
    OpensWithDate text ↔
      ∃ (literal : CompactLiteral) (tail : List Char), ¬ literal.ContinuedBy tail ∧
        text = literal.followedBy tail := by
  constructor
  · rintro ⟨number, rest, hdate⟩
    exact CompactLiteral.exists_of_startsWithNumber hdate
  · rintro ⟨literal, tail, hends, rfl⟩
    exact (CompactLiteral.begins hends).startsWithNumber

end Recurrence
