import Recurrence.Proofs.Rule.Written
import Recurrence.Proofs.Rule.ZonedText

namespace Recurrence

/-- A start declaration that fills its line. Its zone does not end as a rule declaration begins, and its literal is
    a civil time. -/
structure StartLine where
  zone : List Char
  date : List Char
  time : List Char
  zone_ne_nil : zone ≠ []
  colon_notMem : ':' ∉ zone
  not_keyword : ¬ "RRULE".toList <:+ zone
  date_length : date.length = 8
  date_isDigit : ∀ c ∈ date, Text.isDigit c = true
  time_length : time.length = 6
  time_isDigit : ∀ c ∈ time, Text.isDigit c = true
  valid : ∃ start, StartDeclaration.IsAt ⟨String.ofList zone, String.ofList (date ++ 'T' :: time)⟩ start

namespace StartLine

/-- The declaration. -/
def declaration (line : StartLine) : StartDeclaration :=
  ⟨String.ofList line.zone, String.ofList (line.date ++ 'T' :: line.time)⟩

/-- The line without its end. -/
def text (line : StartLine) : String :=
  "DTSTART;TZID=" ++ String.ofList line.zone ++ ":" ++ String.ofList line.date ++ "T" ++ String.ofList line.time

/-- What stands before the colon of the declaration. -/
def opening (line : StartLine) : List Char := "DTSTART;TZID=".toList ++ line.zone

/-- What follows the colon on the line, and the end of the line. -/
def closing (line : StartLine) : List Char := line.date ++ 'T' :: line.time ++ ['\n']

theorem toList_text (line : StartLine) (more : String) :
    (line.text ++ "\n" ++ more).toList = line.opening ++ ':' :: (line.closing ++ more.toList) := by
  unfold text opening closing
  simp only [String.toList_append, String.toList_ofList, List.append_assoc, List.cons_append, List.nil_append]
  rfl

theorem begins (line : StartLine) (more : String) :
    StartDeclaration.Begins (line.text ++ "\n" ++ more).toList line.declaration := by
  refine ⟨line.zone, line.date, line.time, '\n' :: more.toList, ?_, line.zone_ne_nil, line.colon_notMem,
    line.date_length, line.date_isDigit, line.time_length, line.time_isDigit, rfl⟩
  rw [toList_text]
  unfold opening closing
  simp only [List.append_assoc, List.cons_append, List.nil_append]

theorem colon_notMem_opening (line : StartLine) : ':' ∉ line.opening := by
  intro hmem
  rcases List.mem_append.1 hmem with hmem | hmem
  · exact absurd hmem (by decide +kernel)
  · exact line.colon_notMem hmem

theorem colon_notMem_closing (line : StartLine) : ':' ∉ line.closing := by
  have hcolon : Text.isDigit ':' = false := by decide
  intro hmem
  simp only [closing, List.mem_append, List.mem_cons, List.not_mem_nil, or_false] at hmem
  rcases hmem with (hmem | hmem | hmem) | hmem
  · exact Text.notMem_of_isDigit hcolon line.date_isDigit hmem
  · cases hmem
  · exact Text.notMem_of_isDigit hcolon line.time_isDigit hmem
  · cases hmem

theorem not_keyword_opening (line : StartLine) : ¬ "RRULE".toList <:+ line.opening := by
  rintro ⟨before, hbefore⟩
  have hplace : before ++ "RRULE".toList = "DTSTART;TZID".toList ++ '=' :: line.zone := hbefore
  rcases List.append_eq_append_iff.1 hplace with ⟨between, -, hkeyword⟩ | ⟨between, -, hzone⟩
  · have hmem : '=' ∈ "RRULE".toList := hkeyword ▸ List.mem_append_right between List.mem_cons_self
    exact absurd hmem (by decide +kernel)
  · cases between with
    | nil => cases hzone
    | cons c between => exact line.not_keyword ⟨between, (List.cons_eq_cons.1 hzone).2.symm⟩

/-- A rule declaration on the next line is the first of the text: one that begins earlier would have its colon where
    the start declaration has its own, or not before the next line. -/
theorem leftmost_body (line : StartLine) {written : String} {body : List Char}
    (hwritten : written.toList = "RRULE:".toList ++ body) (hne : body ≠ []) (hline : '\n' ∉ body) :
    Text.Leftmost RuleBodyBegins (line.text ++ "\n" ++ written).toList body := by
  refine ⟨line.opening ++ ':' :: line.closing, written.toList, ?_, ⟨[], ?_, hne, hline, by simp⟩, ?_⟩
  · rw [toList_text, List.append_assoc, List.cons_append]
  · rw [hwritten, List.append_nil]
  · rintro earlier rest hrest hshort other ⟨after, rfl, -⟩
    rw [toList_text, hwritten] at hrest
    -- The colons of the text are that of the start declaration, none on its line after it, and that of the written
    -- rule: the keyword stands before one of them.
    have hplace : (earlier ++ "RRULE".toList) ++ ':' :: (other ++ after) =
        line.opening ++ ':' :: ((line.closing ++ "RRULE".toList) ++ ':' :: body) := by
      rw [List.append_assoc, List.append_assoc line.closing]
      exact hrest.symm
    rcases Text.eq_or_of_append_cons_eq line.colon_notMem_opening hplace with hend |
      ⟨between, hend, hnext⟩
    · exact line.not_keyword_opening ⟨earlier, hend⟩
    · have hfar : (line.closing ++ "RRULE".toList).length ≤ between.length := by
        have hcolon : ':' ∉ line.closing ++ "RRULE".toList := by
          intro hmem
          rcases List.mem_append.1 hmem with hmem | hmem
          · exact line.colon_notMem_closing hmem
          · exact absurd hmem (by decide +kernel)
        rcases Text.eq_or_of_append_cons_eq hcolon hnext.symm with rfl | ⟨more, rfl, -⟩
        · exact Nat.le_refl _
        · exact (List.prefix_append _ _).length_le
      have hlength := congrArg List.length hend
      simp only [List.length_append, List.length_cons] at hfar hlength hshort
      omega

/-- With a rule declaration on the next line, both declarations are found and the start is read. -/
theorem exists_start (line : StartLine) {written : String} {body : List Char}
    (hwritten : written.toList = "RRULE:".toList ++ body) (hne : body ≠ []) (hline : '\n' ∉ body) :
    ∃ start, StartDeclaration.find? (line.text ++ "\n" ++ written).toList = some line.declaration ∧
      ruleBody? (line.text ++ "\n" ++ written).toList = some body ∧
      readCompact line.declaration.literal .midnight = .ok start := by
  obtain ⟨start, hstart⟩ := line.valid
  rw [← Rule.readCompact_literal_eq_ok_iff] at hstart
  exact ⟨start, StartDeclaration.find?_eq_some_iff.2 (Text.leftmost_of_begins (line.begins written)),
    ruleBody?_eq_some_iff.2 (line.leftmost_body hwritten hne hline), hstart⟩

end StartLine

namespace Rule

theorem exists_of_ofZonedText {text : String} {rule : Rule} (hread : ofZonedText text = .ok (some rule)) :
    ∃ (declaration : StartDeclaration) (start : Civil) (body : List Char),
      (∀ segment ∈ Segment.readAll body, ¬ segment.HoldsTooLong) ∧
      rule = (opening declaration.zone start).withValues fun key => Segment.values key.name body := by
  have hshort := not_holdsTooLong_of_ok hread
  have hparts := hread
  unfold ofZonedText at hparts
  split at hparts
  · next declaration body hdeclaration hbody =>
    split at hparts
    · next start hstart =>
      refine ⟨declaration, start, body, ?_, ?_⟩
      · intro segment hsegment hlong
        exact hshort ⟨declaration, body, start, hdeclaration, hbody, hstart, segment, hsegment, hlong⟩
      · rw [ofZonedText_eq hshort hdeclaration hbody hstart] at hread
        exact (Option.some.inj (Except.ok.inj hread)).symm
    · cases hparts
  · cases hparts

/-- A rule as zoned text gives it: its numbers are short enough, and no field of its bound is zero that would be
    replaced. -/
structure IsReadFromText (rule : Rule) : Prop where
  numbers : rule.HasReadableNumbers
  bound : ∀ bound, rule.bound = some bound → ∃ civil, bound = .utc civil ∧ civil.time.hour ≠ 0 ∧
    civil.time.minute ≠ 0 ∧ civil.time.second ≠ 0 ∧ civil.time.micro = 0

theorem length_toDigits_le_of_leadingPositive? {value : List Char} {number : Positive}
    (hshort : ¬ Text.StartsTooLong value) (hnumber : leadingPositive? value = some number) :
    (Nat.toDigits 10 number.val).length ≤ Text.numeralLimit := by
  unfold leadingPositive? at hnumber
  obtain ⟨leading, hleading, hpositive⟩ := Option.bind_eq_some_iff.1 hnumber
  rw [Nat.length_toDigits_le_iff (by decide) (by decide)]
  have hlimit := Text.natAbs_lt_of_leading? hshort hleading
  rwa [Positive.ofInt?_eq_some_iff.1 hpositive, Int.natAbs_natCast] at hlimit

theorem ne_zero_of_replaced {field value : Nat} {default : Int} (hdefault : default ≠ 0)
    (hvalue : (value : Int) = if field = 0 then default else field) : value ≠ 0 := by
  split at hvalue <;> omega

theorem isReadFromText {text : String} {rule : Rule} (hread : ofZonedText text = .ok (some rule)) :
    rule.IsReadFromText := by
  obtain ⟨declaration, start, body, hshort, rfl⟩ := exists_of_ofZonedText hread
  have hvalue : ∀ {key : SegmentKey} {value : List Char}, value ∈ Segment.values key.name body →
      ¬ Segment.HoldsTooLong ⟨key, value⟩ := by
    intro key value hmem
    exact hshort _ (Segment.mem_values_iff.1 hmem)
  refine ⟨⟨?_, ?_⟩, ?_⟩
  -- The last value of a key decides, and what is read of a value is not longer than the value.
  · intro number hnumber
    change (Option.map _ _).or none = _ at hnumber
    rw [Option.or_none] at hnumber
    obtain ⟨value, hlast, rfl⟩ := Option.map_eq_some_iff.1 hnumber
    cases hleading : leadingPositive? value with
    | none => decide
    | some number =>
      exact length_toDigits_le_of_leadingPositive? (hvalue (List.mem_of_getLast? hlast)) hleading
  · intro number hnumber
    change (Option.map _ _).getD none = _ at hnumber
    rw [getD_map_none] at hnumber
    obtain ⟨value, hlast, hleading⟩ := Option.bind_eq_some_iff.1 hnumber
    exact length_toDigits_le_of_leadingPositive? (hvalue (List.mem_of_getLast? hlast)) hleading
  · intro bound hbound
    change (List.getLast? _).or none = _ at hbound
    rw [Option.or_none] at hbound
    obtain ⟨value, -, hmeans⟩ := List.mem_filterMap.1 (List.mem_of_getLast? hbound)
    rw [readCompact_map_utc_eq_some_iff] at hmeans
    obtain ⟨fields, civil, -, hmeans, rfl⟩ := hmeans
    exact ⟨civil, rfl, ne_zero_of_replaced (by decide) hmeans.hour,
      ne_zero_of_replaced (by decide) hmeans.minute, ne_zero_of_replaced (by decide) hmeans.second,
      hmeans.micro⟩

/-- What has no zero field is read back as it was written, from year 1000 on. -/
theorem readCompact_compact {civil : Civil} (hhour : civil.time.hour ≠ 0) (hminute : civil.time.minute ≠ 0)
    (hsecond : civil.time.second ≠ 0) (hmicro : civil.time.micro = 0) :
    (readCompact civil.compact .endOfDay).toOption =
      if 1000 ≤ civil.date.year then some civil else none := by
  split
  · next hyear =>
    rw [toOption_eq_some_iff, readCompact_eq_ok_iff]
    refine ⟨_, (Civil.isFullLiteral_compact hyear).begins, rfl, rfl, rfl, ?_, ?_, ?_, hmicro⟩
    · rw [if_neg hhour]
    · rw [if_neg hminute]
    · rw [if_neg hsecond]
  · next hyear =>
    rw [Option.eq_none_iff_forall_ne_some]
    intro found hfound
    rw [toOption_eq_some_iff, readCompact_eq_ok_iff] at hfound
    obtain ⟨fields, hbegins, -⟩ := hfound
    exact Civil.not_begins_compact (Nat.not_le.1 hyear) fields hbegins

theorem body_ne_nil (rule : Rule) (bound : Option Civil) : rule.body bound ≠ [] := by
  intro hempty
  have hread := readAll_body rule bound
  rw [hempty] at hread
  cases hread

/-- Declared anew, a written rule is read as its segments say. -/
theorem ofZonedText_startLine (line : StartLine) {rule : Rule} {bound : Option Civil} {written : String}
    (hnumbers : rule.HasReadableNumbers) (hwritten : written.toList = "RRULE:".toList ++ rule.body bound) :
    ∃ start, ofZonedText (line.text ++ "\n" ++ written) = .ok (some
      ((opening line.declaration.zone start).withValues (Segment.valuesOf · (rule.segments bound)))) := by
  obtain ⟨start, hdeclaration, hbody, hstart⟩ :=
    line.exists_start hwritten (body_ne_nil rule bound) (Segment.newline_notMem_intercalate segments_isPlain)
  have hshort : ¬ HoldsTooLong (line.text ++ "\n" ++ written) := by
    rw [holdsTooLong_iff hdeclaration hbody hstart]
    rintro ⟨segment, hsegment, hlong⟩
    rw [readAll_body] at hsegment
    rcases mem_segments hsegment with rfl | ⟨number, hnumber, rfl⟩ | ⟨number, hnumber, rfl⟩ | ⟨_, -, rfl⟩
    · exact hlong
    · exact hnumbers.interval_short hnumber hlong
    · exact hnumbers.count_short hnumber hlong
    · exact hlong
  refine ⟨start, ?_⟩
  rw [ofZonedText_eq hshort hdeclaration hbody hstart]
  simp only [values_body]

/-- A rule that zoned text gave, written and declared anew, has its frequency, interval and count again, and its
    bound unless the year is before 1000. -/
theorem ofZonedText_written {text : String} {rule : Rule} (hread : ofZonedText text = .ok (some rule))
    (line : StartLine) :
    ∃ written again, rule.written = .ok written ∧
      ofZonedText (line.text ++ "\n" ++ written) = .ok (some again) ∧
      again.frequency = rule.frequency ∧ again.interval = rule.interval ∧ again.count = rule.count ∧
      again.bound = rule.bound.filter fun bound => 1000 ≤ bound.civil.date.year := by
  obtain ⟨hnumbers, hbound⟩ := isReadFromText hread
  have hat : BoundAt rule.bound (rule.bound.map (·.civil)) := by
    cases hgiven : rule.bound with
    | none => exact .none
    | some bound =>
      obtain ⟨civil, rfl, -⟩ := hbound bound hgiven
      exact .some (Moment.toUtc_of_utc rfl)
  obtain ⟨written, hwritten, htext⟩ := written_eq hat
  obtain ⟨start, hagain⟩ := ofZonedText_startLine line hnumbers htext
  refine ⟨written, _, hwritten, hagain, ?_, ?_, ?_, ?_⟩
  · simp [withValues, valuesOf_segments]
  · simp only [withValues, valuesOf_segments, interval_of_toDigits]
    exact Option.or_none
  · simp only [withValues, valuesOf_segments]
    exact (getD_map_none _ _).trans (count_of_toDigits rule.count)
  · cases hgiven : rule.bound with
    | none => simp [withValues, valuesOf_segments, opening]
    | some bound =>
      obtain ⟨civil, rfl, hhour, hminute, hsecond, hmicro⟩ := hbound bound hgiven
      have hcompact := readCompact_compact hhour hminute hsecond hmicro
      rw [Option.filter_some]
      by_cases hyear : 1000 ≤ civil.date.year
      · rw [if_pos hyear] at hcompact
        simp [withValues, valuesOf_segments, opening, Moment.utc, hcompact, hyear]
      · rw [if_neg hyear] at hcompact
        simp [withValues, valuesOf_segments, opening, Moment.utc, hcompact, hyear]

/-- A start declaration of universal time. -/
def utcLine : StartLine where
  zone := ['U', 'T', 'C']
  date := ['2', '0', '2', '4', '0', '1', '0', '1']
  time := ['0', '0', '0', '0', '0', '0']
  zone_ne_nil := by decide
  colon_notMem := by decide
  not_keyword := by decide +kernel
  date_length := rfl
  date_isDigit := List.all_eq_true.1 (by decide +kernel)
  time_length := rfl
  time_isDigit := List.all_eq_true.1 (by decide +kernel)
  valid := by
    simp only [← readCompact_literal_eq_ok_iff, ← toOption_eq_some_iff, ← Option.isSome_iff_exists]
    decide +kernel

/-- Rule text that ends in the last year that is not written with four digits. -/
def earlyText : String :=
  utcLine.text ++ "\nRRULE:COUNT=2;UNTIL=09991231"

/-- Its bound is written with three digits of the year, and lost when this is read. -/
theorem earlyText_written :
    ∃ rule bound, ofZonedText earlyText = .ok (some rule) ∧ rule.bound = some bound ∧
      bound.civil.date.year = 999 ∧
      ∃ written again, rule.written = .ok written ∧
        written = "RRULE:FREQ=DAILY;COUNT=2;UNTIL=9991231T235959Z" ∧
        ofZonedText (utcLine.text ++ "\n" ++ written) = .ok (some again) ∧
        again.frequency = rule.frequency ∧ again.interval = rule.interval ∧ again.count = rule.count ∧
        again.bound = none := by
  have hvalue : ∃ rule, (ofZonedText earlyText).toOption.join = some rule ∧
      (rule.bound.any (·.civil.date.year = 999) &&
        rule.written.toOption == some "RRULE:FREQ=DAILY;COUNT=2;UNTIL=9991231T235959Z") = true :=
    (Option.any_eq_true _ _).1 (by decide +kernel)
  obtain ⟨rule, hrule, hparts⟩ := hvalue
  obtain ⟨hbound, htext⟩ := Bool.and_eq_true_iff.1 hparts
  obtain ⟨bound, hgiven, hyear⟩ := (Option.any_eq_true _ _).1 hbound
  have hread := toOption_eq_some_iff.1 (Option.join_eq_some_iff.1 hrule)
  have hwritten := toOption_eq_some_iff.1 (eq_of_beq htext)
  obtain ⟨written, again, hsame, hagain, hfrequency, hinterval, hcount, hlost⟩ :=
    ofZonedText_written hread utcLine
  have hyear := of_decide_eq_true hyear
  rw [hgiven, Option.filter_some, hyear] at hlost
  exact ⟨rule, bound, hread, hgiven, hyear, written, again, hsame, Except.ok.inj (hsame.symm.trans hwritten),
    hagain, hfrequency, hinterval, hcount, hlost⟩

end Rule

end Recurrence
