import Recurrence.Proofs.Moment.CompactLiteral
import Recurrence.Proofs.Moment.LiteralFaults

namespace Recurrence

/-- A time of day that stands in for missing fields. Without one nothing is replaced. -/
def ClockDefaults.ofTime? : Option TimeOfDay → ClockDefaults
  | none => .midnight
  | some time => ⟨time.hour, time.minute, time.second⟩

/-- What a field comes to: its group's number if it is written and not zero, else what stands in for it. -/
def settled : (written : Option Nat) → (stand : Nat) → Nat
  | none, stand => stand
  | some number, stand => if number = 0 then stand else number

theorem ClockDefaults.ofTime?_eq (stand? : Option TimeOfDay) :
    ofTime? stand? = ⟨(stand?.getD .midnight).hour, (stand?.getD .midnight).minute,
      (stand?.getD .midnight).second⟩ := by
  cases stand? with
  | none => rfl
  | some time => rfl

theorem settled_lt {written : Option Nat} {stand limit : Nat} (hwritten : ∀ number ∈ written, number < limit)
    (hstand : stand < limit) : settled written stand < limit := by
  cases written with
  | none => exact hstand
  | some number =>
    rw [settled]
    split
    · exact hstand
    · exact hwritten number rfl

theorem ClockDefaults.choose_eq_settled (limit : Nat) (written : Option Nat) (stand : Nat) :
    choose limit (written.getD 0) stand = settled written stand := by
  unfold choose
  rw [if_neg (Int.not_lt.2 (Int.natCast_nonneg stand)), Int.toNat_natCast]
  cases written with
  | none => rfl
  | some number => rfl

theorem ClockDefaults.fit_ofTime? (stand? : Option TimeOfDay) (fields : CompactFields) :
    (ofTime? stand?).fit fields = true := by
  have hhour := (stand?.getD .midnight).hour_lt
  have hminute := (stand?.getD .midnight).minute_lt
  have hsecond := (stand?.getD .midnight).second_lt
  -- What stands in is a time of day, far below the numbers that no field holds.
  rw [← Bool.not_eq_false, fit_eq_false_iff, ofTime?_eq]
  simp only [CompactFields.Overflow, Overflows]
  omega

namespace CompactLiteral

/-- The civil time that a literal means where a time of day stands in for what is missing or zero. Each field
    is settled on its own. -/
structure Means (literal : CompactLiteral) (stand : TimeOfDay) (civil : Civil) : Prop where
  year : civil.date.year = literal.year.number
  month : civil.date.month = literal.month.number
  day : civil.date.day = literal.day.number
  hour : civil.time.hour = settled (literal.group? 0) stand.hour
  minute : civil.time.minute = settled (literal.group? 1) stand.minute
  second : civil.time.second = settled (literal.group? 2) stand.second
  micro : civil.time.micro = 0

/-- A literal of a civil time means one on the same date. -/
theorem Writes.exists_means {literal : CompactLiteral} {civil : Civil} (hwrites : literal.Writes civil)
    (stand : TimeOfDay) : ∃ read, literal.Means stand read ∧ read.date = civil.date := by
  have hhour : settled (literal.group? 0) stand.hour < 24 :=
    settled_lt (fun number hnumber => hwrites.hour number hnumber ▸ civil.time.hour_lt) stand.hour_lt
  have hminute : settled (literal.group? 1) stand.minute < 60 :=
    settled_lt (fun number hnumber => hwrites.minute number hnumber ▸ civil.time.minute_lt) stand.minute_lt
  have hsecond : settled (literal.group? 2) stand.second < 60 :=
    settled_lt (fun number hnumber => hwrites.second number hnumber ▸ civil.time.second_lt) stand.second_lt
  exact ⟨⟨civil.date, _, _, _, 0, hhour, hminute, hsecond, by decide⟩,
    ⟨hwrites.year.symm, hwrites.month.symm, hwrites.day.symm, rfl, rfl, rfl, rfl⟩, rfl⟩

/-- The civil time that the settled fields form, if they form one. -/
def formed (literal : CompactLiteral) (stand : TimeOfDay) : Except CivilError Civil :=
  Civil.ofFields literal.year.number literal.month.number literal.day.number
    (settled (literal.group? 0) stand.hour) (settled (literal.group? 1) stand.minute)
    (settled (literal.group? 2) stand.second) 0

theorem formed_eq_ok_iff {literal : CompactLiteral} {stand : TimeOfDay} {read : Civil} :
    literal.formed stand = .ok read ↔ literal.Means stand read := by
  rw [formed, Civil.ofFields_eq_ok_iff, Date.ofFields_eq_ok_iff, TimeOfDay.ofFields_eq_ok_iff]
  constructor
  · rintro ⟨⟨hyear, hmonth, hday⟩, hhour, hminute, hsecond, hmicro⟩
    exact ⟨hyear, hmonth, hday, hhour, hminute, hsecond, hmicro⟩
  · rintro ⟨hyear, hmonth, hday, hhour, hminute, hsecond, hmicro⟩
    exact ⟨⟨hyear, hmonth, hday⟩, hhour, hminute, hsecond, hmicro⟩

section Reading

variable {literal : CompactLiteral} {tail : List Char} (hends : ¬ literal.ContinuedBy tail)
  (stand? : Option TimeOfDay)

include hends

/-- What follows a literal is not looked at, and the fields are settled before any is compared with its range. -/
theorem compactOf_followedBy :
    compactOf (.text (literal.followedBy tail)) (.ofTime? stand?) =
      ((literal.formed (stand?.getD .midnight)).mapError
        (.civilInvalid (literal.followedBy tail))).mapError .literal := by
  have hread := CompactFields.read?_eq_some_iff.2 (begins hends)
  rw [compactOf_eq, hread, Option.all_some, ClockDefaults.fit_ofTime?, if_pos rfl, readCompact, hread,
    ClockDefaults.ofTime?_eq]
  simp only [fields, ClockDefaults.choose_eq_settled]
  rfl

theorem compactOf_followedBy_eq_ok_iff {read : Civil} :
    compactOf (.text (literal.followedBy tail)) (.ofTime? stand?) = .ok read ↔
      literal.Means (stand?.getD .midnight) read := by
  rw [compactOf_followedBy hends, mapError_eq_ok_iff, mapError_eq_ok_iff, formed_eq_ok_iff]

theorem compactOf_followedBy_invalid_iff :
    (∃ cause, compactOf (.text (literal.followedBy tail)) (.ofTime? stand?) =
      .error (.literal (.civilInvalid (literal.followedBy tail) cause))) ↔
        ∀ read, ¬ literal.Means (stand?.getD .midnight) read := by
  simp only [← formed_eq_ok_iff, compactOf_followedBy hends]
  cases literal.formed (stand?.getD .midnight) with
  | error cause => exact iff_of_true ⟨cause, rfl⟩ nofun
  | ok read => exact iff_of_false nofun fun hnone => hnone read rfl

end Reading

end CompactLiteral

theorem compactOf_unreadable_iff {text : String} (stand? : Option TimeOfDay) :
    compactOf (.text text) (.ofTime? stand?) = .error (.literal (.civilUnreadable (.text text))) ↔
      ¬ OpensWithDate text := by
  constructor
  · intro hfail hopens
    obtain ⟨literal, tail, hends, rfl⟩ := opensWithDate_iff.1 hopens
    rw [CompactLiteral.compactOf_followedBy hends, mapError_eq_error_iff] at hfail
    obtain ⟨error, hinvalid, hsame⟩ := hfail
    obtain ⟨cause, -, rfl⟩ := mapError_eq_error_iff.1 hinvalid
    cases hsame
  · intro hnone
    have hread : CompactFields.read? text.toList = none := by
      rw [Option.eq_none_iff_forall_ne_some]
      intro fields hfields
      exact hnone (CompactFields.read?_eq_some_iff.1 hfields).startsWithNumber
    rw [compactOf_eq, hread, Option.all_none, if_pos rfl, readCompact, hread]
    rfl

/-- How compact literals are read, with a time of day that stands in for missing fields, or with none, as if it
    were midnight. A literal of a civil time, with any text behind it that does not continue it, gives a civil
    time of universal time on the same date. What a literal gives is the civil time that it means, each field of
    the time of day settled on its own; if it means none, because its date or a settled field is out of range,
    the error says so. Every text with eight digits in front is such a literal with such a text behind it, and
    any other text cannot be read. -/
theorem compactOf_exact (stand? : Option TimeOfDay) :
    (∀ (literal : CompactLiteral) (tail : List Char), ¬ literal.ContinuedBy tail →
      (∀ civil, literal.Writes civil → ∃ read, read.date = civil.date ∧
        compactOf (.text (literal.followedBy tail)) (.ofTime? stand?) = .ok read) ∧
      (∀ read, compactOf (.text (literal.followedBy tail)) (.ofTime? stand?) = .ok read ↔
        literal.Means (stand?.getD .midnight) read) ∧
      ((∃ cause, compactOf (.text (literal.followedBy tail)) (.ofTime? stand?) =
          .error (.literal (.civilInvalid (literal.followedBy tail) cause))) ↔
        ∀ read, ¬ literal.Means (stand?.getD .midnight) read)) ∧
    (∀ text, OpensWithDate text ↔
      ∃ (literal : CompactLiteral) (tail : List Char), ¬ literal.ContinuedBy tail ∧
        text = literal.followedBy tail) ∧
    (∀ text, compactOf (.text text) (.ofTime? stand?) =
        .error (.literal (.civilUnreadable (.text text))) ↔ ¬ OpensWithDate text) := by
  refine ⟨fun literal tail hends => ⟨fun civil hwrites => ?_, ?_, ?_⟩, fun text => opensWithDate_iff,
    fun text => compactOf_unreadable_iff stand?⟩
  · obtain ⟨read, hmeans, hdate⟩ := hwrites.exists_means (stand?.getD .midnight)
    exact ⟨read, hdate, (CompactLiteral.compactOf_followedBy_eq_ok_iff hends stand?).2 hmeans⟩
  · exact fun read => CompactLiteral.compactOf_followedBy_eq_ok_iff hends stand?
  · exact CompactLiteral.compactOf_followedBy_invalid_iff hends stand?

/-- A time in the night of a leap day is written without its seconds. With the last second of a day to stand in,
    the hour is replaced because it is zero, and the second because it is missing. -/
theorem compactOf_exact_leapNight :
    ∃ (literal : CompactLiteral) (written : Civil) (stand : TimeOfDay) (read : Civil),
      Civil.ofFields 2024 2 29 0 30 17 0 = .ok written ∧ TimeOfDay.ofFields 23 59 59 0 = .ok stand ∧
      literal.followedBy ['Z'] = "20240229T0030Z" ∧ ¬ literal.ContinuedBy ['Z'] ∧ literal.Writes written ∧
      compactOf (.text "20240229T0030Z") (.ofTime? (some stand)) = .ok read ∧
      Civil.ofFields 2024 2 29 23 30 59 0 = .ok read := by
  let written : Civil :=
    ⟨⟨2024, 2, 29, by decide, by decide, by decide, by decide, by decide, by decide⟩,
      ⟨0, 30, 17, 0, by decide, by decide, by decide, by decide⟩⟩
  let stand : TimeOfDay := ⟨23, 59, 59, 0, by decide, by decide, by decide, by decide⟩
  let literal := CompactLiteral.ofCivil written (some 2)
  have htext : literal.followedBy ['Z'] = "20240229T0030Z" := by decide +kernel
  have hends : ¬ literal.ContinuedBy ['Z'] := by
    intro hmore
    obtain ⟨c, hc, hdigit | ⟨hclock, -⟩⟩ := hmore.head
    · cases hc
      revert hdigit
      decide
    · cases hclock
  have hwrites : literal.Writes written := CompactLiteral.writes_ofCivil written (some 2)
  obtain ⟨hreads, -⟩ := compactOf_exact (some stand)
  obtain ⟨hsucceeds, hmeans, -⟩ := hreads literal ['Z'] hends
  obtain ⟨read, hdate, hread⟩ := hsucceeds written hwrites
  obtain ⟨-, -, -, hhour, hminute, hsecond, hmicro⟩ := (hmeans read).1 hread
  have hsettled : Civil.ofFields 2024 2 29 23 30 59 0 = .ok read := by
    rw [Civil.ofFields_eq_ok_iff, TimeOfDay.ofFields_eq_ok_iff, hdate]
    exact ⟨rfl, hhour.trans (by decide +kernel), hminute.trans (by decide +kernel),
      hsecond.trans (by decide +kernel), hmicro⟩
  exact ⟨literal, written, stand, read, rfl, rfl, htext, hends, hwrites, htext ▸ hread, hsettled⟩

end Recurrence
