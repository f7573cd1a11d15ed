import Recurrence.Proofs.Moment.DateText

namespace Recurrence

open Text (IsDigits IsNumeral isBlank)

namespace Iso

variable {more : List Char}

/-- A fraction of a second, or nothing. -/
inductive IsFraction : List Char → Prop
  | nothing : IsFraction []
  | digits {mark : Char} {digits : List Char} (hmark : mark = '.' ∨ mark = ',') (hsome : digits ≠ [])
      (hdigits : ∀ c ∈ digits, c.isDigit = true) : IsFraction (mark :: digits)

/-- A time of day without an offset: `HH`, `HHMM`, `HH:MM`, and `HHMMSS` or `HH:MM:SS` with a fraction or
    without. -/
inductive IsClock : List Char → Prop
  | hour {hour : List Char} (hhour : IsDigits 2 hour) : IsClock hour
  | minute {hour minute : List Char} (hhour : IsDigits 2 hour) (hminute : IsDigits 2 minute) :
      IsClock (hour ++ minute)
  | minuteColon {hour minute : List Char} (hhour : IsDigits 2 hour) (hminute : IsDigits 2 minute) :
      IsClock (hour ++ ':' :: minute)
  | second {hour minute second fraction : List Char} (hhour : IsDigits 2 hour)
      (hminute : IsDigits 2 minute) (hsecond : IsDigits 2 second) (hfraction : IsFraction fraction) :
      IsClock (hour ++ (minute ++ (second ++ fraction)))
  | secondColon {hour minute second fraction : List Char} (hhour : IsDigits 2 hour)
      (hminute : IsDigits 2 minute) (hsecond : IsDigits 2 second) (hfraction : IsFraction fraction) :
      IsClock (hour ++ ':' :: (minute ++ ':' :: (second ++ fraction)))

/-- An offset: `Z`, or a sign with `HH`, `HHMM` or `HH:MM`, hours below 24 and minutes below 60. -/
inductive IsOffset : List Char → Prop
  | zulu : IsOffset ['Z']
  | hours {sign : Char} {group : List Char} {hours : Nat} (hsign : sign = '+' ∨ sign = '-')
      (hhours : IsNumeral 2 group hours) (hhoursLt : hours < 24) : IsOffset (sign :: group)
  | minutes {sign : Char} {hoursGroup minutesGroup : List Char} {hours minutes : Nat}
      (hsign : sign = '+' ∨ sign = '-') (hhours : IsNumeral 2 hoursGroup hours)
      (hminutes : IsNumeral 2 minutesGroup minutes) (hhoursLt : hours < 24) (hminutesLt : minutes < 60) :
      IsOffset (sign :: (hoursGroup ++ minutesGroup))
  | minutesColon {sign : Char} {hoursGroup minutesGroup : List Char} {hours minutes : Nat}
      (hsign : sign = '+' ∨ sign = '-') (hhours : IsNumeral 2 hoursGroup hours)
      (hminutes : IsNumeral 2 minutesGroup minutes) (hhoursLt : hours < 24) (hminutesLt : minutes < 60) :
      IsOffset (sign :: (hoursGroup ++ ':' :: minutesGroup))

/-- What stands behind a time of day: nothing, or an offset. -/
inductive Follows : List Char → Option Int → Prop
  | nothing : Follows [] none
  | offset {text : List Char} {offset : Int} (hsome : text ≠ []) (hend : atEnd text = true)
      (hread : readOffset text = .ok offset) : Follows text (some offset)

theorem Follows.atEnd {offset : Option Int} (hfollows : Follows more offset) : Iso.atEnd more = true := by
  cases hfollows with
  | nothing => rfl
  | offset hsome hend hread => exact hend

/-- Where the digit groups are over there is no digit, colon or mark of a fraction. -/
theorem ne_of_atEnd (hend : atEnd more = true) {c : Char} (hc : more.head? = some c) :
    c.isDigit = false ∧ c ≠ '.' ∧ c ≠ ',' := by
  obtain ⟨rest, rfl⟩ := List.head?_eq_some_iff.1 hc
  simp only [atEnd, isOffsetMark, Bool.or_eq_true, beq_iff_eq] at hend
  rcases hend with ((rfl | rfl) | rfl) | rfl <;> decide

theorem readFraction_append {fraction : List Char} (hfraction : IsFraction fraction) :
    ∃ micro, ∀ more, atEnd more = true → readFraction (fraction ++ more) = (micro, more) := by
  cases hfraction with
  | nothing =>
    refine ⟨0, fun more hend => ?_⟩
    cases more with
    | nil => rfl
    | cons c rest =>
      obtain ⟨-, hpoint, hcomma⟩ := ne_of_atEnd hend rfl
      simp [readFraction, hpoint, hcomma]
  | @digits mark digits hmark hsome hdigits =>
    let kept := digits.take 6
    refine ⟨(number? (kept ++ List.replicate (6 - kept.length) '0')).getD 0, fun more hend => ?_⟩
    have hlatin : ∀ c ∈ digits, (Text.latinDigit? c).isSome = true := fun c hc => by
      rw [Text.latinDigit?_of_latin (hdigits c hc), Option.isSome_some]
    have hstop : ∀ c, more.head? = some c → (Text.latinDigit? c).isSome = false := by
      intro c hc
      by_contra hsome
      rw [Bool.not_eq_false, Option.isSome_iff_exists] at hsome
      obtain ⟨value, hvalue⟩ := hsome
      have hdigit := (ne_of_atEnd hend hc).1
      rw [latin_of_latinDigit? hvalue] at hdigit
      cases hdigit
    have htake := (Text.takeWhile_dropWhile_append hlatin hstop).1
    rw [List.cons_append, readFraction]
    simp only [htake]
    rw [if_pos ⟨hmark, hsome⟩, List.drop_left]

section Clock

variable {hour minute second : Nat} {hourGroup minuteGroup secondGroup : List Char}

theorem readGroups_hour (hhour : IsNumeral 2 hourGroup hour) (hend : atEnd more = true) :
    readGroups (hourGroup ++ more) = .ok ((hour, 0, 0), more) := by
  unfold readGroups
  rw [atEnd_append hhour Nat.zero_lt_two]
  simp only [digits_append hhour, bind, Except.bind, hend, Bool.false_eq_true, if_false, if_true]

theorem readGroups_minute (hhour : IsNumeral 2 hourGroup hour) (hminute : IsNumeral 2 minuteGroup minute)
    (hend : atEnd more = true) :
    readGroups (hourGroup ++ (minuteGroup ++ more)) = .ok ((hour, minute, 0), more) := by
  unfold readGroups
  rw [atEnd_append hhour Nat.zero_lt_two]
  simp only [digits_append hhour, bind, Except.bind, atEnd_append hminute Nat.zero_lt_two,
    takeColon_append hminute Nat.zero_lt_two, digits_append hminute, hend, Bool.false_eq_true, if_false,
    if_true]

theorem readGroups_minuteColon (hhour : IsNumeral 2 hourGroup hour)
    (hminute : IsNumeral 2 minuteGroup minute) (hend : atEnd more = true) :
    readGroups (hourGroup ++ ':' :: (minuteGroup ++ more)) = .ok ((hour, minute, 0), more) := by
  have hcolon : ∀ rest : List Char, atEnd (':' :: rest) = false := fun _ => rfl
  unfold readGroups
  rw [atEnd_append hhour Nat.zero_lt_two]
  simp only [digits_append hhour, bind, Except.bind, hcolon, takeColon, digits_append hminute, hend,
    Bool.false_eq_true, if_false, if_true]

theorem readGroups_second (hhour : IsNumeral 2 hourGroup hour) (hminute : IsNumeral 2 minuteGroup minute)
    (hsecond : IsNumeral 2 secondGroup second) (rest : List Char) :
    readGroups (hourGroup ++ (minuteGroup ++ (secondGroup ++ rest))) =
      .ok ((hour, minute, second), rest) := by
  unfold readGroups
  rw [atEnd_append hhour Nat.zero_lt_two]
  simp only [digits_append hhour, bind, Except.bind, atEnd_append hminute Nat.zero_lt_two,
    takeColon_append hminute Nat.zero_lt_two, digits_append hminute, atEnd_append hsecond Nat.zero_lt_two,
    digits_append hsecond, Bool.false_eq_true, if_false, if_true]

end Clock

/-- The groups of a time of day, whatever stands behind it. -/
theorem IsClock.readGroups_append {text : List Char} (hclock : IsClock text) :
    2 ≤ text.length ∧ ∃ groups fraction, IsFraction fraction ∧
      ∀ more, atEnd more = true → readGroups (text ++ more) = .ok (groups, fraction ++ more) := by
  have htwo : ∀ {hour : List Char}, IsDigits 2 hour → ∀ rest : List Char, 2 ≤ (hour ++ rest).length := by
    intro hour hhour rest
    rw [List.length_append, hhour.1]
    exact Nat.le_add_right 2 _
  cases hclock with
  | hour hhour =>
    exact ⟨Nat.le_of_eq hhour.1.symm, _, [], .nothing,
      fun more hend => readGroups_hour hhour.isNumeral hend⟩
  | minute hhour hminute =>
    refine ⟨htwo hhour _, ?_⟩
    simp only [List.append_assoc]
    exact ⟨_, [], .nothing, fun more hend => readGroups_minute hhour.isNumeral hminute.isNumeral hend⟩
  | minuteColon hhour hminute =>
    refine ⟨htwo hhour _, ?_⟩
    simp only [List.append_assoc, List.cons_append]
    exact ⟨_, [], .nothing, fun more hend => readGroups_minuteColon hhour.isNumeral hminute.isNumeral hend⟩
  | second hhour hminute hsecond hfraction =>
    refine ⟨htwo hhour _, ?_⟩
    simp only [List.append_assoc]
    exact ⟨_, _, hfraction,
      fun more _ => readGroups_second hhour.isNumeral hminute.isNumeral hsecond.isNumeral _⟩
  | secondColon hhour hminute hsecond hfraction =>
    refine ⟨htwo hhour _, ?_⟩
    simp only [List.append_assoc, List.cons_append]
    exact ⟨_, _, hfraction,
      fun more _ => readGroups_colons hhour.isNumeral hminute.isNumeral hsecond.isNumeral _⟩

/-- A time of day is read the same whatever stands behind it, but for the offset that it is read with. Only
    midnight may be written with hour 24. -/
theorem IsClock.readClock_append {text : List Char} (hclock : IsClock text) :
    (∀ more offset, Follows more offset → readClock (text ++ more) = .error .pastMidnight) ∨
      ∃ hour minute second micro, ∀ more offset, Follows more offset →
        readClock (text ++ more) = .ok ⟨hour, minute, second, micro, offset⟩ := by
  obtain ⟨hlength, ⟨hour, minute, second⟩, fraction, hfraction, hgroups⟩ := hclock.readGroups_append
  obtain ⟨micro, hmicro⟩ := readFraction_append hfraction
  have hread : ∀ more offset, Follows more offset →
      readClock (text ++ more) =
        if hour = 24 ∧ (minute ≠ 0 ∨ second ≠ 0 ∨ micro ≠ 0) then .error .pastMidnight
        else .ok ⟨hour, minute, second, micro, offset⟩ := by
    intro more offset hfollows
    have hlonger : (text ++ more).length = text.length + more.length := List.length_append
    have hend := hfollows.atEnd
    unfold readClock
    rw [if_neg (by omega), hgroups more hend]
    simp only [bind, Except.bind, hmicro more hend]
    cases hfollows with
    | nothing => rfl
    | offset hsome hend hread => simp only [if_neg hsome, if_pos hend, hread, Except.map]
  by_cases hlate : hour = 24 ∧ (minute ≠ 0 ∨ second ≠ 0 ∨ micro ≠ 0)
  · exact Or.inl fun more offset hfollows => (hread more offset hfollows).trans (if_pos hlate)
  · exact Or.inr ⟨hour, minute, second, micro,
      fun more offset hfollows => (hread more offset hfollows).trans (if_neg hlate)⟩

section Offset

variable {sign : Char} {hours minutes : Nat} {hoursGroup minutesGroup : List Char}

/-- An offset of hours alone. -/
theorem readOffset_hours (hsign : sign = '+' ∨ sign = '-') (hhours : IsNumeral 2 hoursGroup hours)
    (hhoursLt : hours < 24) :
    readOffset (sign :: hoursGroup) =
      .ok (if sign = '-' then -((hours * 60 + 0) * 60 : Int) else (hours * 60 + 0) * 60) := by
  have hlength : (sign :: hoursGroup).length = 3 := by rw [List.length_cons, hhours.length]
  have hgroup := digits_append hhours []
  rw [List.append_nil] at hgroup
  unfold readOffset
  rw [if_neg (ne_zulu_of_long (by omega)), if_neg (by omega)]
  dsimp only
  rw [if_pos hsign, hgroup]
  simp only [bind, Except.bind, if_true, pure, Except.pure]
  rw [if_neg (by omega), if_neg (by omega)]
  rfl

/-- An offset of hours and minutes without a colon. -/
theorem readOffset_compact (hsign : sign = '+' ∨ sign = '-') (hhours : IsNumeral 2 hoursGroup hours)
    (hminutes : IsNumeral 2 minutesGroup minutes) (hhoursLt : hours < 24) (hminutesLt : minutes < 60) :
    readOffset (sign :: (hoursGroup ++ minutesGroup)) =
      .ok (if sign = '-' then -((hours * 60 + minutes) * 60 : Int) else (hours * 60 + minutes) * 60) := by
  have hlength : (sign :: (hoursGroup ++ minutesGroup)).length = 5 := by
    rw [List.length_cons, List.length_append, hhours.length, hminutes.length]
  have hgroup := digits_append hminutes []
  obtain ⟨first, rest, hfirst, hmark⟩ := hminutes.exists_digit Nat.zero_lt_two []
  rw [List.append_nil] at hgroup hfirst
  have hcolon : minutesGroup.head? ≠ some ':' := by
    rw [hfirst, List.head?_cons, ne_eq, Option.some.injEq]
    exact hmark ':' rfl
  have hsome : minutesGroup ≠ [] := by
    rw [hfirst]
    exact List.cons_ne_nil _ _
  unfold readOffset
  rw [if_neg (ne_zulu_of_long (by omega)), if_neg (by omega)]
  dsimp only
  rw [if_pos hsign, digits_append hhours]
  simp only [bind, Except.bind, hsome, if_false, hcolon, hminutes.length, if_true, hgroup, pure, Except.pure]
  rw [if_neg (by omega), if_neg (by omega)]

end Offset

theorem atEnd_of_sign {sign : Char} (hsign : sign = '+' ∨ sign = '-') (rest : List Char) :
    atEnd (sign :: rest) = true := by
  rcases hsign with rfl | rfl
  · rfl
  · rfl

/-- Every offset may stand behind a time of day. -/
theorem IsOffset.follows {text : List Char} (hoffset : IsOffset text) :
    ∃ offset, Follows text (some offset) := by
  cases hoffset with
  | zulu => exact ⟨0, .offset (List.cons_ne_nil _ _) rfl rfl⟩
  | hours hsign hhours hhoursLt =>
    exact ⟨_, .offset (List.cons_ne_nil _ _) (atEnd_of_sign hsign _) (readOffset_hours hsign hhours hhoursLt)⟩
  | minutes hsign hhours hminutes hhoursLt hminutesLt =>
    exact ⟨_, .offset (List.cons_ne_nil _ _) (atEnd_of_sign hsign _)
      (readOffset_compact hsign hhours hminutes hhoursLt hminutesLt)⟩
  | minutesColon hsign hhours hminutes hhoursLt hminutesLt =>
    exact ⟨_, .offset (List.cons_ne_nil _ _) (atEnd_of_sign hsign _)
      (readOffset_minutes hsign hhours hminutes hhoursLt hminutesLt)⟩

theorem IsFraction.mark_of_mem {text : List Char} (hfraction : IsFraction text) {c : Char} (hc : c ∈ text) :
    c.isDigit = true ∨ c = '.' ∨ c = ',' := by
  cases hfraction with
  | nothing => cases hc
  | digits hmark hsome hdigits =>
    rcases List.mem_cons.1 hc with rfl | hc
    · exact Or.inr hmark
    · exact Or.inl (hdigits c hc)

theorem IsClock.mark_of_mem {text : List Char} (hclock : IsClock text) {c : Char} (hc : c ∈ text) :
    c.isDigit = true ∨ c = ':' ∨ c = '.' ∨ c = ',' := by
  cases hclock with
  | hour hhour => exact Or.inl (hhour.2 c hc)
  | minute hhour hminute =>
    rcases List.mem_append.1 hc with hc | hc
    · exact Or.inl (hhour.2 c hc)
    · exact Or.inl (hminute.2 c hc)
  | minuteColon hhour hminute =>
    simp only [List.mem_append, List.mem_cons] at hc
    rcases hc with hc | rfl | hc
    · exact Or.inl (hhour.2 c hc)
    · exact Or.inr (Or.inl rfl)
    · exact Or.inl (hminute.2 c hc)
  | second hhour hminute hsecond hfraction =>
    simp only [List.mem_append] at hc
    rcases hc with hc | hc | hc | hc
    · exact Or.inl (hhour.2 c hc)
    · exact Or.inl (hminute.2 c hc)
    · exact Or.inl (hsecond.2 c hc)
    · exact (hfraction.mark_of_mem hc).imp_right Or.inr
  | secondColon hhour hminute hsecond hfraction =>
    simp only [List.mem_append, List.mem_cons] at hc
    rcases hc with hc | rfl | hc | rfl | hc | hc
    · exact Or.inl (hhour.2 c hc)
    · exact Or.inr (Or.inl rfl)
    · exact Or.inl (hminute.2 c hc)
    · exact Or.inr (Or.inl rfl)
    · exact Or.inl (hsecond.2 c hc)
    · exact (hfraction.mark_of_mem hc).imp_right Or.inr

/-- An offset is a `Z`, or a sign with nothing but digits and colons behind it. -/
theorem IsOffset.eq_or {text : List Char} (hoffset : IsOffset text) :
    text = ['Z'] ∨ ∃ sign rest, text = sign :: rest ∧ (sign = '+' ∨ sign = '-') ∧
      ∀ c ∈ rest, c.isDigit = true ∨ c = ':' := by
  cases hoffset with
  | zulu => exact Or.inl rfl
  | hours hsign hhours => exact Or.inr ⟨_, _, rfl, hsign, fun c hc => Or.inl (hhours.latin c hc)⟩
  | minutes hsign hhours hminutes =>
    refine Or.inr ⟨_, _, rfl, hsign, fun c hc => Or.inl ?_⟩
    rcases List.mem_append.1 hc with hc | hc
    · exact hhours.latin c hc
    · exact hminutes.latin c hc
  | minutesColon hsign hhours hminutes =>
    refine Or.inr ⟨_, _, rfl, hsign, fun c hc => ?_⟩
    simp only [List.mem_append, List.mem_cons] at hc
    rcases hc with hc | rfl | hc
    · exact Or.inl (hhours.latin c hc)
    · exact Or.inr rfl
    · exact Or.inl (hminutes.latin c hc)

theorem not_blank_of_latin {c : Char} (hc : c.isDigit = true) : isBlank c = false :=
  Text.isBlank_of_isDigit (Text.isDigit_of_latin hc)

theorem ascii_of_latin {c : Char} (hc : c.isDigit = true) : c.toNat < 128 :=
  Nat.lt_trans (Text.toNat_of_latin hc).2 (by decide)

theorem IsClock.plain {text : List Char} (hclock : IsClock text) {c : Char} (hc : c ∈ text) :
    isBlank c = false ∧ c.toNat < 128 ∧ c ≠ 'T' ∧ c ≠ '-' := by
  rcases hclock.mark_of_mem hc with hdigit | rfl | rfl | rfl
  · refine ⟨not_blank_of_latin hdigit, ascii_of_latin hdigit, ?_, ?_⟩
    · rintro rfl
      cases hdigit
    · rintro rfl
      cases hdigit
  all_goals decide

/-- An offset has a minus at its start at most. -/
theorem IsOffset.plain {text : List Char} (hoffset : IsOffset text) :
    (∀ c ∈ text, isBlank c = false ∧ c.toNat < 128 ∧ c ≠ 'T') ∧ '-' ∉ text.tail := by
  have hbehind : ∀ {c : Char}, c.isDigit = true ∨ c = ':' →
      (isBlank c = false ∧ c.toNat < 128 ∧ c ≠ 'T') ∧ c ≠ '-' := by
    rintro c (hdigit | rfl)
    · refine ⟨⟨not_blank_of_latin hdigit, ascii_of_latin hdigit, ?_⟩, ?_⟩
      · rintro rfl
        cases hdigit
      · rintro rfl
        cases hdigit
    · decide
  rcases hoffset.eq_or with rfl | ⟨sign, rest, rfl, hsign, hrest⟩
  · exact ⟨List.forall_mem_singleton.2 (by decide), by decide⟩
  · refine ⟨List.forall_mem_cons.2 ⟨?_, fun c hc => (hbehind (hrest c hc)).1⟩,
      fun hminus => (hbehind (hrest '-' hminus)).2 rfl⟩
    rcases hsign with rfl | rfl
    · decide
    · decide

theorem IsOffset.ne_nil {text : List Char} (hoffset : IsOffset text) : text ≠ [] := by
  rcases hoffset.eq_or with rfl | ⟨sign, rest, rfl, -⟩
  · exact List.cons_ne_nil _ _
  · exact List.cons_ne_nil _ _

theorem IsClock.ne_nil {text : List Char} (hclock : IsClock text) : text ≠ [] := by
  have hlength := hclock.readGroups_append.1
  exact List.ne_nil_of_length_pos (by omega)

end Iso

end Recurrence
