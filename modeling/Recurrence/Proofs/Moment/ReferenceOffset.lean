import Recurrence.Proofs.Moment.ClockAsDate
import Recurrence.Proofs.Moment.LiteralFaults

namespace Recurrence

open Text (isBlank strip)

namespace Iso

/-- A literal that ends in a time of day without an offset: the time of day alone, or behind a date and any one
    character. -/
inductive EndsInClock : List Char → Prop
  | alone {text : List Char} (hclock : IsClock text) : EndsInClock text
  | dated {text clock : List Char} {date : DateFields} {mark : Char}
      (hdate : readDate text = .ok (date, mark :: clock)) (hclock : IsClock clock) : EndsInClock text

end Iso

open Iso (EndsInClock IsClock IsOffset)

theorem hasDate_append {text : List Char} (hdated : hasDate text = true) (more : List Char) :
    hasDate (text ++ more) = true := by
  rw [hasDate_iff] at hdated ⊢
  rw [List.take_append]
  exact hdated.imp (List.mem_append_left more) (List.mem_append_left _)

theorem Iso.IsClock.hasDate {text : List Char} (hclock : IsClock text) : hasDate text = false := by
  rw [Bool.eq_false_iff, ne_eq, hasDate_iff]
  rintro (hmark | hdash)
  · exact (hclock.plain hmark).2.2.1 rfl
  · exact (hclock.plain (List.mem_of_mem_take hdash)).2.2.2 rfl

/-- With an offset a time of day is taken for a date exactly if it is short and the offset begins with a minus. -/
theorem Iso.IsClock.hasDate_append {text offset : List Char} (hclock : IsClock text)
    (hoffset : IsOffset offset) :
    Recurrence.hasDate (text ++ offset) = true ↔ text.length < 8 ∧ offset.head? = some '-' := by
  have hmark : 'T' ∉ text ++ offset := by
    rw [List.mem_append]
    rintro (hmark | hmark)
    · exact (hclock.plain hmark).2.2.1 rfl
    · exact (hoffset.plain.1 _ hmark).2.2 rfl
  have hdash : '-' ∉ text.take 8 := fun hdash => (hclock.plain (List.mem_of_mem_take hdash)).2.2.2 rfl
  rw [hasDate_iff, or_iff_right hmark, List.take_append, List.mem_append, or_iff_right hdash]
  obtain ⟨first, rest, rfl⟩ := List.exists_cons_of_ne_nil hoffset.ne_nil
  have hrest : '-' ∉ rest := hoffset.plain.2
  rw [List.head?_cons, Option.some.injEq]
  cases hroom : 8 - text.length with
  | zero =>
    rw [List.take_zero]
    refine iff_of_false List.not_mem_nil fun hshort => ?_
    omega
  | succ room =>
    rw [List.take_succ_cons, List.mem_cons, or_iff_left fun hmore => hrest (List.mem_of_mem_take hmore)]
    refine ⟨fun hfirst => ⟨by omega, hfirst.symm⟩, fun hshort => hshort.2.symm⟩

namespace Iso

/-- The civil time of a moment does not depend on its offset. -/
theorem map_civil_momentOf (date : DateFields) (hour minute second micro : Nat) (offset other : Option Int) :
    (momentOf date ⟨hour, minute, second, micro, offset⟩).map (·.civil) =
      (momentOf date ⟨hour, minute, second, micro, other⟩).map (·.civil) := by
  unfold momentOf
  dsimp only
  cases (Civil.ofFields date.year date.month date.day (if hour = 24 then 0 else hour) minute second
    micro).mapError Error.civil with
  | error cause => rfl
  | ok civil =>
    simp only [bind, Except.bind]
    split
    · cases (civil.shift .days 1).mapError Error.calendar <;> rfl
    · rfl

theorem ascii_of_readMoment {text : List Char} {moment : Moment} (hread : readMoment text = .ok moment) :
    ∀ c ∈ text, c.toNat < 128 := by
  unfold readMoment at hread
  obtain ⟨body, hbody, -⟩ := bind_eq_ok_iff.1 hread
  exact (ascii_eq_ok_iff.1 hbody).1

section

variable {text offset : List Char} (hoffset : IsOffset offset)
include hoffset

theorem ascii_append (hascii : ∀ c ∈ text, c.toNat < 128) : ascii (text ++ offset) = .ok (text ++ offset) :=
  ascii_eq_ok_iff.2
    ⟨List.forall_mem_append.2 ⟨hascii, fun c hc => (hoffset.plain.1 c hc).2.1⟩, rfl⟩

theorem readTime_append (hclock : IsClock text) : readTime (text ++ offset) = readTime text := by
  have hascii : ∀ c ∈ text, c.toNat < 128 := fun c hc => (hclock.plain hc).2.1
  obtain ⟨seconds, hfollows⟩ := hoffset.follows
  unfold readTime
  rw [ascii_append hoffset hascii, ascii_eq_ok_iff.2 ⟨hascii, rfl⟩]
  rcases hclock.readClock_append with hlate | ⟨hour, minute, second, micro, hread⟩
  · have hplain := hlate [] none .nothing
    rw [List.append_nil] at hplain
    simp only [bind, Except.bind, hplain, hlate offset _ hfollows]
  · have hplain := hread [] none .nothing
    rw [List.append_nil] at hplain
    simp only [bind, Except.bind, hplain, hread offset _ hfollows]

theorem map_civil_readMoment_append {clock : List Char} {date : DateFields} {mark : Char}
    (hdate : readDate text = .ok (date, mark :: clock)) (hclock : IsClock clock)
    (hascii : ∀ c ∈ text, c.toNat < 128) :
    (readMoment (text ++ offset)).map (·.civil) = (readMoment text).map (·.civil) := by
  obtain ⟨seconds, hfollows⟩ := hoffset.follows
  have hlength : 10 ≤ text.length := by
    obtain ⟨year, after, hyear, htext, front, hafter, hfront⟩ :=
      consumed_of_readDate hdate (List.cons_ne_nil mark clock)
    have htwo := hclock.readGroups_append.1
    rw [htext, hafter, List.length_append, List.length_append, List.length_cons, hyear.1]
    omega
  have hlonger : readDate (text ++ offset) = .ok (date, mark :: (clock ++ offset)) := by
    rw [readDate_leaving hlength, hdate]
    rfl
  unfold readMoment
  rw [ascii_append hoffset hascii, ascii_eq_ok_iff.2 ⟨hascii, rfl⟩]
  rcases hclock.readClock_append with hlate | ⟨hour, minute, second, micro, hread⟩
  · have hplain := hlate [] none .nothing
    rw [List.append_nil] at hplain
    simp only [bind, Except.bind, hdate, hlonger, hplain, hlate offset _ hfollows]
  · have hplain := hread [] none .nothing
    rw [List.append_nil] at hplain
    simp only [bind, Except.bind, hdate, hlonger, hplain, hread offset _ hfollows]
    exact map_civil_momentOf date hour minute second micro _ _

end

theorem EndsInClock.head {text : List Char} (hends : EndsInClock text) :
    ∃ first rest, text = first :: rest ∧ isBlank first = false := by
  cases hends with
  | alone hclock =>
    obtain ⟨first, rest, rfl⟩ := List.exists_cons_of_ne_nil hclock.ne_nil
    exact ⟨first, rest, rfl, (hclock.plain List.mem_cons_self).1⟩
  | dated hdate hclock =>
    obtain ⟨yearGroup, year, after, hyear, rfl⟩ := exists_of_readDate hdate
    have hpos : 0 < yearGroup.length := by
      rw [hyear.length]
      decide
    obtain ⟨first, rest, rfl⟩ := List.exists_cons_of_length_pos hpos
    exact ⟨first, rest ++ after, rfl, not_blank_of_latin (hyear.latin first List.mem_cons_self)⟩

theorem EndsInClock.last {text : List Char} (hends : EndsInClock text) :
    ∃ front clock, text = front ++ clock ∧ clock ≠ [] ∧ ∀ c ∈ clock, isBlank c = false := by
  cases hends with
  | alone hclock => exact ⟨[], text, rfl, hclock.ne_nil, fun c hc => (hclock.plain hc).1⟩
  | @dated clock date mark hdate hclock =>
    obtain ⟨year, after, -, rfl, front, rfl, -⟩ := consumed_of_readDate hdate (List.cons_ne_nil _ _)
    exact ⟨year ++ (front ++ [mark]), clock, by simp, hclock.ne_nil, fun c hc => (hclock.plain hc).1⟩

theorem EndsInClock.strip {text : List Char} (hends : EndsInClock text) : strip text = text := by
  obtain ⟨first, rest, hfirst, hblank⟩ := hends.head
  obtain ⟨front, clock, hlast, hsome, hclock⟩ := hends.last
  refine Text.strip_of_ends (fun c hc => ?_) (fun c hc => ?_)
  · rw [hfirst] at hc
    cases hc
    exact hblank
  · rw [hlast, List.getLast?_append_of_ne_nil _ hsome] at hc
    exact hclock c (List.mem_of_getLast? hc)

theorem EndsInClock.strip_append {text offset : List Char} (hends : EndsInClock text)
    (hoffset : IsOffset offset) : Text.strip (text ++ offset) = text ++ offset := by
  obtain ⟨first, rest, rfl, hblank⟩ := hends.head
  refine Text.strip_of_ends (fun c hc => ?_) (fun c hc => ?_)
  · cases hc
    exact hblank
  · rw [List.getLast?_append_of_ne_nil _ hoffset.ne_nil] at hc
    exact (hoffset.plain.1 c (List.mem_of_getLast? hc)).1

/-- A literal that ends in a time of day and is short has no date. -/
theorem EndsInClock.isClock_of_short {text : List Char} (hends : EndsInClock text) (hshort : text.length < 8) :
    IsClock text := by
  cases hends with
  | alone hclock => exact hclock
  | dated hdate hclock =>
    obtain ⟨year, after, hyear, rfl, front, rfl, hfront⟩ :=
      consumed_of_readDate hdate (List.cons_ne_nil _ _)
    simp only [List.length_append, List.length_cons, hyear.1] at hshort
    omega

end Iso

open Iso (IsYearMonth)

section

variable {text offset : List Char} (hends : EndsInClock text) (hoffset : IsOffset offset) {time : TimeOfDay}
include hends hoffset

/-- Unless it is taken for a date, a time of day with an offset is what it is without. -/
theorem writtenTime_append (hread : writtenTime text = .ok time)
    (hapart : ¬ (text.length < 8 ∧ offset.head? = some '-')) : writtenTime (text ++ offset) = .ok time := by
  have halone : IsClock text → writtenTime (text ++ offset) = .ok time := by
    intro hclock
    have hplain : hasDate (text ++ offset) = false := by
      rw [Bool.eq_false_iff, ne_eq, hclock.hasDate_append hoffset]
      exact hapart
    unfold writtenTime at hread ⊢
    rw [hclock.hasDate] at hread
    rw [hplain]
    exact (Iso.readTime_append hoffset hclock).trans hread
  cases hends with
  | alone hclock => exact halone hclock
  | dated hdate hclock =>
    have hdated : hasDate text = true := by
      by_contra hplain
      unfold writtenTime at hread
      rw [if_neg hplain] at hread
      exact hplain (Iso.hasDate_of_readTime hdate hread)
    unfold writtenTime at hread ⊢
    rw [if_pos hdated] at hread
    rw [if_pos (hasDate_append hdated offset)]
    obtain ⟨moment, hmoment, rfl⟩ := map_eq_ok_iff.1 hread
    have hcivil := Iso.map_civil_readMoment_append hoffset hdate hclock (Iso.ascii_of_readMoment hmoment)
    rw [hmoment] at hcivil
    obtain ⟨found, hfound, hsame⟩ := map_eq_ok_iff.1 hcivil
    exact map_eq_ok_iff.2 ⟨found, hfound, congrArg Civil.time hsame⟩

/-- A short time of day with a minus behind it is midnight if the two are a year and a month, and no time
    otherwise. -/
theorem writtenTime_append_of_short (hshort : text.length < 8) (hminus : offset.head? = some '-') :
    (IsYearMonth text offset → writtenTime (text ++ offset) = .ok .midnight) ∧
      (¬ IsYearMonth text offset → ∃ cause, writtenTime (text ++ offset) = .error cause) := by
  have hclock := hends.isClock_of_short hshort
  have hdated : hasDate (text ++ offset) = true := (hclock.hasDate_append hoffset).2 ⟨hshort, hminus⟩
  unfold writtenTime
  rw [if_pos hdated]
  refine ⟨fun hmonthly => hmonthly.readMoment, fun hmonthly => ?_⟩
  obtain ⟨cause, hfails⟩ := hclock.readMoment_fails hshort hoffset hminus hmonthly
  rw [hfails]
  exact ⟨cause, rfl⟩

end

/-- An offset behind a reference time that ends in a time of day leaves it as it is, unless the reference time is
    shorter than eight characters and the offset begins with a minus. Then the two are read as a date: four
    digits and an offset of hours that write a year and a month are midnight, whatever the time of day was,
    and everything else is refused. -/
theorem readWallClock_append_offset {text suffix : String} (hends : EndsInClock text.toList)
    (hoffset : IsOffset suffix.toList) {time : TimeOfDay} (hread : readWallClock text = .ok time) :
    (¬ (text.toList.length < 8 ∧ suffix.toList.head? = some '-') →
      readWallClock (text ++ suffix) = .ok time) ∧
    (text.toList.length < 8 → suffix.toList.head? = some '-' →
      (IsYearMonth text.toList suffix.toList → readWallClock (text ++ suffix) = .ok .midnight) ∧
      (¬ IsYearMonth text.toList suffix.toList →
        ∃ cause, readWallClock (text ++ suffix) = .error (.clockUnreadable (text ++ suffix) cause))) := by
  have hstrip : strip (text ++ suffix).toList = text.toList ++ suffix.toList := by
    rw [String.toList_append, hends.strip_append hoffset]
  have hresult : ∀ {written : TimeOfDay}, writtenTime (text.toList ++ suffix.toList) = .ok written →
      readWallClock (text ++ suffix) = .ok written.wholeSecond := by
    intro written hwritten
    rw [readWallClock_eq_ok_iff, hstrip]
    exact ⟨written, hwritten, rfl⟩
  constructor
  · intro hapart
    obtain ⟨written, hwritten, rfl⟩ := readWallClock_eq_ok_iff.1 hread
    rw [hends.strip] at hwritten
    exact hresult (writtenTime_append hends hoffset hwritten hapart)
  · intro hshort hminus
    obtain ⟨hmidnight, hrefused⟩ := writtenTime_append_of_short hends hoffset hshort hminus
    refine ⟨fun hmonthly => hresult (hmidnight hmonthly), fun hmonthly => ?_⟩
    obtain ⟨cause, hfails⟩ := hrefused hmonthly
    refine ⟨cause, readWallClock_eq_error_iff.2 (Or.inr ⟨cause, rfl, ?_, ?_⟩)⟩
    · obtain ⟨first, rest, hfirst, hblank⟩ := hends.head
      refine ⟨first, ?_, hblank⟩
      rw [String.toList_append, hfirst]
      exact List.mem_cons_self
    · rw [hstrip, hfails]

/-- A quarter to five, five hours to the east and five to the west. -/
theorem quarterToFive_append :
    ∃ time cause, readWallClock "04:45" = .ok time ∧ readWallClock ("04:45" ++ "+05:00") = .ok time ∧
      readWallClock ("04:45" ++ "-05:00") = .error (.clockUnreadable "04:45-05:00" cause) := by
  have hclock : IsClock (['0', '4'] ++ ':' :: ['4', '5']) :=
    .minuteColon ⟨rfl, List.all_eq_true.1 rfl⟩ ⟨rfl, List.all_eq_true.1 rfl⟩
  have hoffset : ∀ sign, sign = '+' ∨ sign = '-' → IsOffset (sign :: (['0', '5'] ++ ':' :: ['0', '0'])) :=
    fun sign hsign => .minutesColon hsign ⟨rfl, List.all_eq_true.1 rfl, rfl⟩
      ⟨rfl, List.all_eq_true.1 rfl, rfl⟩ (by decide) (by decide)
  have hends : EndsInClock "04:45".toList := .alone hclock
  have heastOffset : IsOffset "+05:00".toList := hoffset '+' (Or.inl rfl)
  have hwestOffset : IsOffset "-05:00".toList := hoffset '-' (Or.inr rfl)
  obtain ⟨time, hread⟩ : ∃ time, readWallClock "04:45" = .ok time := ⟨_, rfl⟩
  obtain ⟨heast, -⟩ := readWallClock_append_offset hends heastOffset hread
  obtain ⟨-, hwest⟩ := readWallClock_append_offset hends hwestOffset hread
  obtain ⟨cause, hrefused⟩ := (hwest (by decide) rfl).2 fun hmonthly => absurd hmonthly.length (by decide)
  exact ⟨time, cause, hread, heast (by decide), hrefused⟩

end Recurrence
