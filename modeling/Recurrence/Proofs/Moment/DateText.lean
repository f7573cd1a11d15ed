import Recurrence.Proofs.Moment.Stamp

namespace Recurrence

open Text (IsDigits IsNumeral)

theorem Text.IsDigits.isNumeral {width : Nat} {group : List Char} (hgroup : IsDigits width group) :
    IsNumeral width group (Nat.ofDigitChars 10 group 0) :=
  ⟨hgroup.1, hgroup.2, rfl⟩

theorem Text.IsDigits.append {width other : Nat} {front back : List Char} (hfront : IsDigits width front)
    (hback : IsDigits other back) : IsDigits (width + other) (front ++ back) :=
  ⟨by rw [List.length_append, hfront.1, hback.1], List.forall_mem_append.2 ⟨hfront.2, hback.2⟩⟩

theorem Text.IsDigits.exists_append {width : Nat} (other : Nat) {group : List Char}
    (hgroup : IsDigits (width + other) group) :
    ∃ front back, group = front ++ back ∧ IsDigits width front ∧ IsDigits other back := by
  have hlength := hgroup.1
  refine ⟨group.take width, group.drop width, (List.take_append_drop width group).symm, ⟨?_, ?_⟩, ?_, ?_⟩
  · rw [List.length_take]
    omega
  · exact fun c hc => hgroup.2 c (List.mem_of_mem_take hc)
  · rw [List.length_drop]
    omega
  · exact fun c hc => hgroup.2 c (List.mem_of_mem_drop hc)

namespace Iso

theorem latin_of_latinDigit? {c : Char} {value : Nat} (hvalue : Text.latinDigit? c = some value) :
    c.isDigit = true := by
  unfold Text.latinDigit? at hvalue
  split at hvalue
  · next hrange =>
    simp only [Char.isDigit, Bool.and_eq_true, decide_eq_true_eq]
    exact ⟨hrange.1, Nat.le_of_lt_succ hrange.2⟩
  · cases hvalue

theorem latin_of_number? {group : List Char} {number : Nat} (hnumber : number? group = some number) :
    ∀ c ∈ group, c.isDigit = true := by
  have hfold : ∀ {digits : List Char} {start : Nat},
      digits.foldlM (fun number c => (Text.latinDigit? c).map (number * 10 + ·)) start = some number →
        ∀ c ∈ digits, c.isDigit = true := by
    intro digits
    induction digits with
    | nil => exact fun _ c hc => absurd hc List.not_mem_nil
    | cons first rest ih =>
      intro start hfold
      rw [List.foldlM_cons, Option.bind_eq_bind, Option.bind_eq_some_iff] at hfold
      obtain ⟨next, hfirst, hrest⟩ := hfold
      obtain ⟨value, hvalue, -⟩ := Option.map_eq_some_iff.1 hfirst
      exact List.forall_mem_cons.2 ⟨latin_of_latinDigit? hvalue, ih hrest⟩
  exact hfold hnumber

theorem digits_eq_ok_iff {width number : Nat} {text rest : List Char} :
    digits width text = .ok (number, rest) ↔
      ∃ group, text = group ++ rest ∧ IsNumeral width group number := by
  constructor
  · intro hread
    unfold digits at hread
    dsimp only at hread
    split at hread
    · next found hfound =>
      split at hread
      · next hlength =>
        cases hread
        have hgroup : IsNumeral width (text.take width) _ := ⟨hlength, latin_of_number? hfound, rfl⟩
        have hsame := number?_eq_some hgroup
        rw [hfound, Option.some.injEq] at hsame
        exact ⟨text.take width, (List.take_append_drop width text).symm, hsame ▸ hgroup⟩
      · cases hread
    · cases hread
  · rintro ⟨group, rfl, hgroup⟩
    exact digits_append hgroup rest

theorem length_of_digits {width number : Nat} {text rest : List Char}
    (hread : digits width text = .ok (number, rest)) : text.length = width + rest.length := by
  obtain ⟨group, rfl, hgroup⟩ := digits_eq_ok_iff.1 hread
  rw [List.length_append, hgroup.length]

/-- Among the characters of a group there is no mark. -/
theorem digits_fails_of_mark {width : Nat} {front rest : List Char} {mark : Char}
    (hmark : mark.isDigit = false) (hfront : front.length < width) :
    ∃ cause, digits width (front ++ mark :: rest) = .error cause := by
  cases hread : digits width (front ++ mark :: rest) with
  | error cause => exact ⟨cause, rfl⟩
  | ok found =>
    obtain ⟨group, hgroup, hnumeral⟩ := digits_eq_ok_iff.1 hread
    have hinside : mark ∈ group := by
      have htake := congrArg (List.take width) hgroup
      rw [List.take_left' hnumeral.length] at htake
      rw [← htake]
      refine List.mem_of_getElem? (i := front.length) ?_
      rw [List.getElem?_take_of_lt hfront, List.getElem?_append_right (Nat.le_refl _), Nat.sub_self,
        List.getElem?_cons_zero]
    rw [hnumeral.latin mark hinside] at hmark
    cases hmark

/-- What has been read off a text, with more text left behind it. -/
def leaving {α : Type} (more : List Char) (found : α × List Char) : α × List Char :=
  (found.1, found.2 ++ more)

variable {more : List Char}

theorem digits_leaving {width : Nat} {text : List Char} (hlength : width ≤ text.length) :
    digits width (text ++ more) = (digits width text).map (leaving more) := by
  unfold digits
  rw [List.take_append_of_le_length hlength, List.drop_append_of_le_length hlength]
  dsimp only
  split
  · split
    · rfl
    · rfl
  · rfl

theorem takeDash_leaving {text : List Char} (hsome : text ≠ []) :
    takeDash (text ++ more) = leaving more (takeDash text) := by
  obtain ⟨first, rest, rfl⟩ := List.exists_cons_of_ne_nil hsome
  unfold takeDash
  by_cases hdash : first = '-'
  · subst hdash
    rfl
  · simp [hdash, leaving]

theorem length_of_takeDash (text : List Char) :
    text.length ≤ (takeDash text).2.length + 1 ∧ (takeDash text).2.length ≤ text.length := by
  unfold takeDash
  split
  · simp
  · simp

theorem calendarDate_leaving (year : Nat) {text : List Char} (hlength : 6 ≤ text.length) :
    calendarDate year (text ++ more) = (calendarDate year text).map (leaving more) := by
  have hsome : text ≠ [] := List.ne_nil_of_length_pos (by omega)
  have hdash := (length_of_takeDash text).1
  unfold calendarDate
  rw [if_neg hsome, if_neg (List.append_ne_nil_of_left_ne_nil hsome more), takeDash_leaving hsome]
  generalize takeDash text = found at hdash ⊢
  obtain ⟨dashed, rest⟩ := found
  dsimp only [leaving] at hdash ⊢
  rw [digits_leaving (by omega)]
  cases hmonth : digits 2 rest with
  | error cause => rfl
  | ok found =>
    obtain ⟨month, rest⟩ := found
    have hshorter := length_of_digits hmonth
    have hrest : rest ≠ [] := List.ne_nil_of_length_pos (by omega)
    have hagain := (length_of_takeDash rest).1
    simp only [bind, Except.bind, Except.map, leaving, if_neg hrest,
      if_neg (List.append_ne_nil_of_left_ne_nil hrest more)]
    cases dashed with
    | true =>
      simp only [if_true, takeDash_leaving hrest]
      generalize takeDash rest = found at hagain ⊢
      obtain ⟨again, rest⟩ := found
      dsimp only [leaving] at hagain ⊢
      cases again with
      | true =>
        rw [digits_leaving (by omega)]
        cases digits 2 rest <;> rfl
      | false => rfl
    | false =>
      simp only [Bool.false_eq_true, if_false, if_true]
      rw [digits_leaving (by omega)]
      cases digits 2 rest <;> rfl

theorem weekDate_leaving (year : Nat) (dashed : Bool) {text : List Char} (hlength : 4 ≤ text.length) :
    weekDate year dashed (text ++ more) = (weekDate year dashed text).map (leaving more) := by
  unfold weekDate
  rw [digits_leaving (by omega)]
  cases hweek : digits 2 text with
  | error cause => rfl
  | ok found =>
    obtain ⟨week, rest⟩ := found
    have hshorter := length_of_digits hweek
    have hrest : rest ≠ [] := List.ne_nil_of_length_pos (by omega)
    have hagain := (length_of_takeDash rest).1
    simp only [bind, Except.bind, Except.map, leaving, if_neg hrest,
      if_neg (List.append_ne_nil_of_left_ne_nil hrest more), takeDash_leaving hrest]
    generalize takeDash rest = found at hagain ⊢
    obtain ⟨again, rest⟩ := found
    dsimp only [leaving] at hagain ⊢
    split
    · rw [digits_leaving (by omega)]
      cases digits 1 rest with
      | error cause => rfl
      | ok found =>
        simp only [Except.map, leaving]
        split
        · split
          · split <;> rfl
          · rfl
        · rfl
    · rfl

theorem ordinalDate_leaving (year : Nat) {text : List Char} (hlength : 3 ≤ text.length) :
    ordinalDate year (text ++ more) = (ordinalDate year text).map (leaving more) := by
  have hlonger : (text ++ more).length = text.length + more.length := List.length_append
  unfold ordinalDate
  rw [if_neg (by omega), if_neg (by omega), digits_leaving hlength]
  cases digits 3 text with
  | error cause => rfl
  | ok found =>
    simp only [bind, Except.bind, Except.map, leaving]
    split
    · split <;> rfl
    · rfl

theorem rarerDate_leaving (year : Nat) {text : List Char} (hlength : 6 ≤ text.length) :
    rarerDate year (text ++ more) = (rarerDate year text).map (leaving more) := by
  have hsome : text ≠ [] := List.ne_nil_of_length_pos (by omega)
  have hdash := (length_of_takeDash text).1
  unfold rarerDate
  rw [takeDash_leaving hsome]
  generalize takeDash text = found at hdash ⊢
  obtain ⟨dashed, rest⟩ := found
  dsimp only [leaving] at hdash ⊢
  obtain ⟨first, rest, rfl⟩ := List.exists_cons_of_length_pos (show 0 < rest.length by omega)
  rw [List.length_cons] at hdash
  by_cases hweek : first = 'W'
  · subst hweek
    exact weekDate_leaving year dashed (by omega)
  · have hordinal : ordinalDate year (first :: rest ++ more) =
        (ordinalDate year (first :: rest)).map (leaving more) :=
      ordinalDate_leaving year (by rw [List.length_cons]; omega)
    simpa [hweek] using hordinal

/-- A date is read from its first ten characters at most. -/
theorem readDate_leaving {text : List Char} (hlength : 10 ≤ text.length) :
    readDate (text ++ more) = (readDate text).map (leaving more) := by
  have hlonger : (text ++ more).length = text.length + more.length := List.length_append
  unfold readDate
  rw [if_neg (by omega), if_neg (by omega), digits_leaving (by omega)]
  cases hyear : digits 4 text with
  | error cause => rfl
  | ok found =>
    obtain ⟨year, rest⟩ := found
    have hrest := length_of_digits hyear
    simp only [bind, Except.bind, Except.map, leaving]
    rw [calendarDate_leaving year (by omega)]
    cases calendarDate year rest with
    | ok found => rfl
    | error cause =>
      simp only [Except.map]
      rw [rarerDate_leaving year (by omega)]
      cases rarerDate year rest <;> rfl

/-- So many characters at least stand before the rest of a text. -/
def Consumed (least : Nat) (text rest : List Char) : Prop :=
  ∃ front, text = front ++ rest ∧ least ≤ front.length

theorem Consumed.trans {first second : Nat} {text middle rest : List Char}
    (hfirst : Consumed first text middle) (hsecond : Consumed second middle rest) :
    Consumed (first + second) text rest := by
  obtain ⟨front, rfl, hfront⟩ := hfirst
  obtain ⟨between, rfl, hbetween⟩ := hsecond
  refine ⟨front ++ between, (List.append_assoc ..).symm, ?_⟩
  rw [List.length_append]
  exact Nat.add_le_add hfront hbetween

theorem Consumed.mono {least fewer : Nat} {text rest : List Char} (hconsumed : Consumed least text rest)
    (hfewer : fewer ≤ least) : Consumed fewer text rest := by
  obtain ⟨front, htext, hfront⟩ := hconsumed
  exact ⟨front, htext, Nat.le_trans hfewer hfront⟩

theorem consumed_of_digits {width number : Nat} {text rest : List Char}
    (hread : digits width text = .ok (number, rest)) : Consumed width text rest := by
  obtain ⟨group, htext, hgroup⟩ := digits_eq_ok_iff.1 hread
  exact ⟨group, htext, Nat.le_of_eq hgroup.length.symm⟩

theorem consumed_takeDash (text : List Char) : Consumed 0 text (takeDash text).2 := by
  unfold takeDash
  split
  · exact ⟨['-'], rfl, Nat.zero_le _⟩
  · exact ⟨[], rfl, Nat.le_refl 0⟩

theorem consumed_of_calendarDate {year : Nat} {text rest : List Char} {date : DateFields}
    (hread : calendarDate year text = .ok (date, rest)) (hrest : rest ≠ []) : Consumed 4 text rest := by
  have hdash := consumed_takeDash text
  unfold calendarDate at hread
  split at hread
  · cases hread
    exact absurd rfl hrest
  · generalize takeDash text = found at hdash hread
    obtain ⟨dashed, body⟩ := found
    obtain ⟨⟨month, after⟩, hmonth, hread⟩ := bind_eq_ok_iff.1 hread
    have hbefore := hdash.trans (consumed_of_digits hmonth)
    -- The day is read behind the dash, if one is needed.
    have hday : ∀ {left : List Char}, Consumed 0 after left →
        (digits 2 left >>= fun found => .ok ((⟨year, month, found.1⟩ : DateFields), found.2)) =
          .ok (date, rest) → Consumed 4 text rest := by
      intro left hleft hfound
      obtain ⟨⟨day, final⟩, hday, hfound⟩ := bind_eq_ok_iff.1 hfound
      cases hfound
      exact ((hbefore.trans hleft).trans (consumed_of_digits hday)).mono (Nat.le_refl 4)
    dsimp only at hread
    split at hread
    · split at hread
      · cases hread
        exact absurd rfl hrest
      · cases hread
    · cases dashed with
      | true =>
        simp only [if_true] at hread
        split at hread
        · exact hday (consumed_takeDash after) hread
        · cases hread
      | false => exact hday ⟨[], rfl, Nat.le_refl 0⟩ hread

theorem consumed_of_weekDate {year : Nat} {dashed : Bool} {text rest : List Char} {date : Date}
    (hread : weekDate year dashed text = .ok (date, rest)) : Consumed 2 text rest := by
  unfold weekDate at hread
  obtain ⟨⟨week, after⟩, hweek, hread⟩ := bind_eq_ok_iff.1 hread
  have hbefore := consumed_of_digits hweek
  -- Whatever the day is, nothing is read behind it.
  have hday : ∀ {outcome : Except Error (Nat × List Char)},
      (∀ day left, outcome = .ok (day, left) → Consumed 0 after left) →
      (outcome >>= fun found =>
          if 1 ≤ week ∧ week ≤ 53 then
            if 1 ≤ found.1 ∧ found.1 ≤ 7 then do
              let date ← dayOfYear year (firstMonday year + 7 * ((week : Int) - 1) + (found.1 - 1))
              return (date, found.2)
            else .error (.weekdayRange found.1)
          else .error (.weekRange week)) = .ok (date, rest) → Consumed 2 text rest := by
    intro outcome hleft hfound
    obtain ⟨⟨day, left⟩, hday, hfound⟩ := bind_eq_ok_iff.1 hfound
    dsimp only at hfound
    split at hfound
    · split at hfound
      · obtain ⟨found, -, hfound⟩ := bind_eq_ok_iff.1 hfound
        cases hfound
        exact hbefore.trans (hleft day _ hday)
      · cases hfound
    · cases hfound
  dsimp only at hread
  split at hread
  · next hnone =>
    refine hday ?_ hread
    rintro day left hfound
    cases hfound
    exact ⟨[], hnone, Nat.le_refl 0⟩
  · split at hread
    · refine hday ?_ hread
      intro day left hfound
      exact ((consumed_takeDash after).trans (consumed_of_digits hfound)).mono (Nat.zero_le _)
    · refine hday ?_ hread
      rintro day left hnone
      cases hnone

theorem consumed_of_ordinalDate {year : Nat} {text rest : List Char} {date : Date}
    (hread : ordinalDate year text = .ok (date, rest)) : Consumed 3 text rest := by
  unfold ordinalDate at hread
  split at hread
  · cases hread
  · obtain ⟨⟨day, after⟩, hday, hread⟩ := bind_eq_ok_iff.1 hread
    dsimp only at hread
    split at hread
    · obtain ⟨found, -, hread⟩ := bind_eq_ok_iff.1 hread
      cases hread
      exact consumed_of_digits hday
    · cases hread

theorem consumed_of_rarerDate {year : Nat} {text rest : List Char} {date : Date}
    (hread : rarerDate year text = .ok (date, rest)) : Consumed 3 text rest := by
  have hdash := consumed_takeDash text
  unfold rarerDate at hread
  generalize takeDash text = found at hdash hread
  obtain ⟨dashed, body⟩ := found
  dsimp only at hdash hread
  split at hread
  · next week =>
    have hletter : Consumed 1 ('W' :: week) week := ⟨['W'], rfl, Nat.le_refl 1⟩
    exact ((hdash.trans hletter).trans (consumed_of_weekDate hread)).mono (Nat.le_refl 3)
  · exact (hdash.trans (consumed_of_ordinalDate hread)).mono (Nat.le_refl 3)

/-- Behind the year a date goes on as a calendar date or as one of the rarer kinds. -/
theorem of_readDate {yearGroup after rest : List Char} {year : Nat} {date : DateFields}
    (hyear : IsNumeral 4 yearGroup year) (hread : readDate (yearGroup ++ after) = .ok (date, rest)) :
    calendarDate year after = .ok (date, rest) ∨ ∃ found, rarerDate year after = .ok (found, rest) := by
  unfold readDate at hread
  rw [digits_append hyear] at hread
  split at hread
  · cases hread
  · simp only [bind, Except.bind] at hread
    split at hread
    · next found hcalendar =>
      cases hread
      exact Or.inl hcalendar
    · split at hread
      · cases hread
      · next found hrarer =>
        cases hread
        exact Or.inr ⟨found.1, hrarer⟩

/-- A date begins with four digits. -/
theorem exists_of_readDate {text rest : List Char} {date : DateFields}
    (hread : readDate text = .ok (date, rest)) :
    ∃ yearGroup year after, IsNumeral 4 yearGroup year ∧ text = yearGroup ++ after := by
  unfold readDate at hread
  split at hread
  · cases hread
  · obtain ⟨⟨year, after⟩, hyear, -⟩ := bind_eq_ok_iff.1 hread
    obtain ⟨yearGroup, htext, hnumeral⟩ := digits_eq_ok_iff.1 hyear
    exact ⟨yearGroup, year, after, hnumeral, htext⟩

/-- A date that something follows has seven characters at least, of which four digits come first. -/
theorem consumed_of_readDate {text rest : List Char} {date : DateFields}
    (hread : readDate text = .ok (date, rest)) (hrest : rest ≠ []) :
    ∃ year after, IsDigits 4 year ∧ text = year ++ after ∧ Consumed 3 after rest := by
  obtain ⟨yearGroup, year, after, hyear, rfl⟩ := exists_of_readDate hread
  refine ⟨yearGroup, after, hyear.isDigits, rfl, ?_⟩
  rcases of_readDate hyear hread with hcalendar | ⟨found, hrarer⟩
  · exact (consumed_of_calendarDate hcalendar hrest).mono (by decide)
  · exact consumed_of_rarerDate hrarer

end Iso

end Recurrence
