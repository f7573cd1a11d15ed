import Mathlib.Data.Option.Defs
import Recurrence.Proofs.Moment.CompactText
import Recurrence.Proofs.Rule.PlainText

namespace Recurrence

namespace Segment

/-- The text of a segment. -/
def written (segment : Segment) : List Char :=
  segment.key.name.toList ++ '=' :: segment.value

/-- A value that can be told from what surrounds it when it is written. -/
def IsPlain (segment : Segment) : Prop :=
  ∀ c ∈ segment.value, Text.isBlank c = false ∧ c ≠ ';'

theorem name_isPlain (key : SegmentKey) :
    '=' ∉ key.name.toList ∧ ∀ c ∈ key.name.toList, Text.isBlank c = false ∧ c ≠ ';' := by
  have hname : (key.name.toList.all fun c => !Text.isBlank c && c != ';') = true := by
    cases key <;> decide +kernel
  exact ⟨by cases key <;> decide +kernel, by simpa using hname⟩

theorem read?_written {segment : Segment} (hplain : segment.IsPlain) :
    read? segment.written = some segment := by
  obtain ⟨hequals, hname⟩ := name_isPlain segment.key
  rw [read?_eq_some_iff, written, Text.cut_append_cons hequals]
  exact ⟨Text.strip_of_forall_not_blank fun c hc => (hname c hc).1,
    Text.strip_of_forall_not_blank fun c hc => (hplain c hc).1⟩

theorem isPlain_of_mem_written {segment : Segment} (hplain : segment.IsPlain) {c : Char}
    (hc : c ∈ segment.written) : Text.isBlank c = false ∧ c ≠ ';' := by
  rcases List.mem_append.1 hc with hc | hc
  · exact (name_isPlain segment.key).2 c hc
  · rcases List.mem_cons.1 hc with rfl | hc
    · decide
    · exact hplain c hc

theorem plain_of_latin {c : Char} (hc : c.isDigit = true) : Text.isBlank c = false ∧ c ≠ ';' := by
  refine ⟨Text.isBlank_of_isDigit (Text.isDigit_of_latin hc), ?_⟩
  rintro rfl
  cases hc

/-- Segments are written on one line. -/
theorem newline_notMem_intercalate {segments : List Segment}
    (hplain : ∀ segment ∈ segments, segment.IsPlain) :
    '\n' ∉ [';'].intercalate (segments.map written) := by
  intro hmem
  rcases Text.mem_of_mem_intercalate hmem with hmem | ⟨part, hpart, hmem⟩
  · exact absurd hmem (by decide)
  · obtain ⟨segment, hsegment, rfl⟩ := List.mem_map.1 hpart
    have hblank := (isPlain_of_mem_written (hplain segment hsegment) hmem).1
    exact absurd hblank (by decide)

/-- Segments that were written between semicolons are read back. -/
theorem readAll_written {segments : List Segment} (hne : segments ≠ [])
    (hplain : ∀ segment ∈ segments, segment.IsPlain) :
    readAll ([';'].intercalate (segments.map written)) = segments := by
  have hparts : ∀ part ∈ segments.map written, ';' ∉ part := by
    intro part hpart hmem
    obtain ⟨segment, hsegment, rfl⟩ := List.mem_map.1 hpart
    exact (isPlain_of_mem_written (hplain segment hsegment) hmem).2 rfl
  rw [readAll, Text.fields_eq_splitOn, List.splitOn_intercalate ';' hparts (by simpa using hne),
    List.filterMap_map]
  have hread : ∀ segment ∈ segments, (read? ∘ written) segment = some segment :=
    fun segment hsegment => read?_written (hplain segment hsegment)
  rw [List.filterMap_congr hread, List.filterMap_some]

theorem values_written {segments : List Segment} (hne : segments ≠ [])
    (hplain : ∀ segment ∈ segments, segment.IsPlain) (key : SegmentKey) :
    values key.name ([';'].intercalate (segments.map written)) = valuesOf key segments := by
  rw [← valuesOf_readAll, readAll_written hne hplain]

theorem toList_written (key : SegmentKey) (text : String) :
    (key.name ++ "=" ++ text).toList = written ⟨key, text.toList⟩ := by
  simp [written]

theorem toList_written_toString (key : SegmentKey) (number : Nat) :
    (key.name ++ "=" ++ toString number).toList = written ⟨key, Nat.toDigits 10 number⟩ := by
  simp [written]

theorem valuesOf_append (key : SegmentKey) (segments others : List Segment) :
    valuesOf key (segments ++ others) = valuesOf key segments ++ valuesOf key others := by
  rw [valuesOf, List.filter_append, List.map_append, valuesOf, valuesOf]

theorem valuesOf_map {α : Type} (key other : SegmentKey) (f : α → List Char) (items : List α) :
    valuesOf key (items.map fun item => ⟨other, f item⟩) = if other = key then items.map f else [] := by
  induction items with
  | nil => simp [valuesOf]
  | cons item rest ih =>
    rw [List.map_cons, valuesOf_cons, ih]
    split <;> rfl

end Segment

namespace Rule

/-- The segments of a rule's written form, for a bound as a civil time of universal time. -/
def segments (rule : Rule) (bound : Option Civil) : List Segment :=
  ⟨.frequency, rule.frequency.token.toList⟩ ::
    ((rule.interval.toList.map fun number => ⟨.interval, Nat.toDigits 10 number.val⟩) ++
      (rule.count.toList.map fun number => ⟨.count, Nat.toDigits 10 number.val⟩) ++
      bound.toList.map fun civil => ⟨.bound, civil.compact.toList⟩)

theorem mem_segments {rule : Rule} {bound : Option Civil} {segment : Segment}
    (hsegment : segment ∈ rule.segments bound) :
    segment = ⟨.frequency, rule.frequency.token.toList⟩ ∨
      (∃ number, rule.interval = some number ∧ segment = ⟨.interval, Nat.toDigits 10 number.val⟩) ∨
      (∃ number, rule.count = some number ∧ segment = ⟨.count, Nat.toDigits 10 number.val⟩) ∨
      ∃ civil, bound = some civil ∧ segment = ⟨.bound, civil.compact.toList⟩ := by
  simp only [segments, List.mem_cons, List.mem_append, List.mem_map, Option.mem_toList] at hsegment
  rcases hsegment with
    hfrequency | (⟨number, hnumber, rfl⟩ | ⟨number, hnumber, rfl⟩) | ⟨civil, hcivil, rfl⟩
  · exact Or.inl hfrequency
  · exact Or.inr (Or.inl ⟨number, hnumber, rfl⟩)
  · exact Or.inr (Or.inr (Or.inl ⟨number, hnumber, rfl⟩))
  · exact Or.inr (Or.inr (Or.inr ⟨civil, hcivil, rfl⟩))

theorem segments_isPlain {rule : Rule} {bound : Option Civil} :
    ∀ segment ∈ rule.segments bound, segment.IsPlain := by
  intro segment hsegment
  rcases mem_segments hsegment with rfl | ⟨number, -, rfl⟩ | ⟨number, -, rfl⟩ | ⟨civil, -, rfl⟩
  · have htoken : (rule.frequency.token.toList.all fun c => !Text.isBlank c && c != ';') = true := by
      cases rule.frequency <;> decide +kernel
    simpa [Segment.IsPlain] using htoken
  · exact fun c hc => Segment.plain_of_latin (Text.isDigit_of_mem_toDigits hc)
  · exact fun c hc => Segment.plain_of_latin (Text.isDigit_of_mem_toDigits hc)
  · intro c hc
    dsimp only at hc
    rcases Civil.mem_compact hc with hc | rfl | rfl
    · exact Segment.plain_of_latin hc
    · decide
    · decide

/-- The body that a rule is written with. -/
def body (rule : Rule) (bound : Option Civil) : List Char :=
  [';'].intercalate ((rule.segments bound).map Segment.written)

theorem readAll_body (rule : Rule) (bound : Option Civil) :
    Segment.readAll (rule.body bound) = rule.segments bound :=
  Segment.readAll_written (List.cons_ne_nil _ _) segments_isPlain

/-- The parts of a written form are the texts of the segments, whatever stands for the bound. -/
theorem toList_parts (rule : Rule) {bound : Option Civil} {ends : List String}
    (hends : ends.map String.toList =
      (bound.toList.map fun civil => (⟨.bound, civil.compact.toList⟩ : Segment)).map Segment.written) :
    ("RRULE:" ++ ";".intercalate (s!"FREQ={rule.frequency.token}" ::
      ((rule.interval.toList.map fun interval => s!"INTERVAL={interval.val}") ++
        (rule.count.toList.map fun count => s!"COUNT={count.val}") ++ ends))).toList =
      "RRULE:".toList ++ rule.body bound := by
  have hfrequency := Segment.toList_written .frequency rule.frequency.token
  have hinterval := fun number : Positive => Segment.toList_written_toString .interval number.val
  have hcount := fun number : Positive => Segment.toList_written_toString .count number.val
  simp only [String.toList_append, String.toList_intercalate, List.map_cons, List.map_append, List.map_map,
    hends, body, segments, Function.comp_def, ← hfrequency, ← hinterval, ← hcount]
  rfl

/-- A bound and the civil time of universal time that it means. -/
def BoundAt : Option Moment → Option Civil → Prop :=
  Option.Rel fun moment civil => moment.toUtc = .ok civil

/-- A rule whose bound has a civil time of universal time is written as its segments. -/
theorem written_eq {rule : Rule} {bound : Option Civil} (hbound : BoundAt rule.bound bound) :
    ∃ text, rule.written = .ok text ∧
      text.toList = "RRULE:".toList ++ rule.body bound := by
  unfold written
  generalize rule.bound = given at hbound
  cases hbound with
  | none => exact ⟨_, rfl, rule.toList_parts rfl⟩
  | @some moment civil hutc =>
    dsimp only
    rw [hutc]
    refine ⟨_, rfl, rule.toList_parts ?_⟩
    exact congrArg (fun part => [part]) (Segment.toList_written .bound civil.compact)

theorem valuesOf_segments (rule : Rule) (bound : Option Civil) (key : SegmentKey) :
    Segment.valuesOf key (rule.segments bound) =
      match key with
      | .frequency => [rule.frequency.token.toList]
      | .interval => rule.interval.toList.map fun number => Nat.toDigits 10 number.val
      | .count => rule.count.toList.map fun number => Nat.toDigits 10 number.val
      | .bound => bound.toList.map fun civil => civil.compact.toList
      | .weekStart | .weekdays | .positions => [] := by
  cases key <;> simp [segments, Segment.valuesOf_cons, Segment.valuesOf_append, Segment.valuesOf_map]

/-- Numbers that are short enough to be read once they are written. -/
structure HasReadableNumbers (rule : Rule) : Prop where
  interval : ∀ number, rule.interval = some number →
    (Nat.toDigits 10 number.val).length ≤ Text.numeralLimit
  count : ∀ number, rule.count = some number →
    (Nat.toDigits 10 number.val).length ≤ Text.numeralLimit

section Numbers

variable {rule : Rule} {number : Positive} (hnumbers : rule.HasReadableNumbers)

include hnumbers

theorem HasReadableNumbers.interval_short (hnumber : rule.interval = some number) :
    ¬ Text.StartsTooLong (Nat.toDigits 10 number.val) := by
  rw [Text.startsTooLong_toDigits_iff, Nat.not_lt]
  exact hnumbers.interval number hnumber

theorem HasReadableNumbers.count_short (hnumber : rule.count = some number) :
    ¬ Text.StartsTooLong (Nat.toDigits 10 number.val) := by
  rw [Text.startsTooLong_toDigits_iff, Nat.not_lt]
  exact hnumbers.count number hnumber

end Numbers

theorem values_body (rule : Rule) (bound : Option Civil) (key : SegmentKey) :
    Segment.values key.name (rule.body bound) = Segment.valuesOf key (rule.segments bound) :=
  Segment.values_written (List.cons_ne_nil _ _) segments_isPlain key

end Rule

theorem leadingPositive?_toDigits (number : Positive) :
    leadingPositive? (Nat.toDigits 10 number.val) = some number :=
  leadingPositive?_eq_some_iff.2 (Text.leadsWith_toDigits number.val)

theorem interval_of_toDigits (interval : Option Positive) :
    ((interval.toList.map fun number => Nat.toDigits 10 number.val).getLast?.map fun value =>
      (leadingPositive? value).getD .one) = interval := by
  cases interval <;> simp [leadingPositive?_toDigits]

theorem count_of_toDigits (count : Option Positive) :
    (count.toList.map fun number => Nat.toDigits 10 number.val).getLast?.bind leadingPositive? = count := by
  cases count <;> simp [leadingPositive?_toDigits]

/-- The moment that plain text gives for a bound: its instant in universal time, to the second. -/
def Moment.IsReadAs (given read : Moment) : Prop :=
  ∃ civil, read = .utc civil ∧ (civil.ticks : Int) = given.instantTick / 1000000 * 1000000

namespace Rule

/-- The rule that plain text gives for the written form of another. -/
structure IsReadAs (rule again : Rule) : Prop where
  frequency : again.frequency = rule.frequency
  interval : again.interval = rule.interval
  count : again.count = rule.count
  bound : Option.Rel Moment.IsReadAs rule.bound again.bound
  start : again.start = none
  declaredZone : again.declaredZone = none
  weekStart : again.weekStart = none
  byWeekday : again.byWeekday = none
  bySetPosition : again.bySetPosition = none

theorem isReadable_body {rule : Rule} {bound : Option Civil} (hnumbers : rule.HasReadableNumbers)
    (hyear : ∀ civil, bound = some civil → 1000 ≤ civil.date.year) : IsReadable (rule.body bound) := by
  rw [isReadable_iff, readAll_body]
  intro segment hsegment hfails
  rcases mem_segments hsegment with rfl | ⟨number, hnumber, rfl⟩ | ⟨number, hnumber, rfl⟩ |
    ⟨civil, hcivil, rfl⟩
  · exact hfails
  · exact hnumbers.interval_short hnumber hfails
  · exact hnumbers.count_short hnumber hfails
  · obtain ⟨error, herror⟩ := hfails
    dsimp only [Segment.text] at herror
    rw [String.ofList_toList, Civil.readInstant_compact (hyear civil hcivil)] at herror
    cases herror

theorem plainDraft_body {rule : Rule} {bound : Option Civil}
    (hyear : ∀ civil, bound = some civil → 1000 ≤ civil.date.year) :
    plainDraft (rule.body bound) =
      ⟨some rule.frequency, rule.interval, rule.count, bound.map Civil.wholeSecond⟩ := by
  have hbound : (bound.toList.map fun civil => civil.compact.toList).getLast?.map
      (fun value => (readInstant (String.ofList value)).toOption) =
      bound.map fun civil => some civil.wholeSecond := by
    cases bound with
    | none => rfl
    | some civil => simp [Civil.readInstant_compact (hyear civil rfl), Except.toOption]
  simp only [plainDraft, PlainDraft.withValues, values_body, valuesOf_segments, interval_of_toDigits, hbound,
    getD_map_none, count_of_toDigits]
  cases bound <;> simp

theorem boundAt_isReadAs {given : Option Moment} {bound : Option Civil} (hbound : BoundAt given bound) :
    Option.Rel Moment.IsReadAs given ((bound.map Civil.wholeSecond).map .utc) := by
  cases hbound with
  | none => exact .none
  | @some moment civil hutc =>
    apply Option.Rel.some
    refine ⟨civil.wholeSecond, rfl, ?_⟩
    rw [← Moment.toUtc_eq_ok_iff.1 hutc, Civil.wholeSecond_ticks]
    omega

/-- What plain text gives for a written rule, for its bound as a civil time of universal time. -/
def readBack (rule : Rule) (bound : Option Civil) : Rule where
  frequency := rule.frequency
  interval := rule.interval
  count := rule.count
  bound := (bound.map Civil.wholeSecond).map .utc

/-- It is written as it was, since a fraction of a second is not written. -/
theorem written_readBack {rule : Rule} {bound : Option Civil} {text : String}
    (htext : text.toList = "RRULE:".toList ++ rule.body bound) : (rule.readBack bound).written = .ok text := by
  have hbound : BoundAt (rule.readBack bound).bound (bound.map Civil.wholeSecond) := by
    cases bound with
    | none => exact .none
    | some civil => exact .some (Moment.toUtc_of_utc rfl)
  obtain ⟨again, hagain, hbody⟩ := written_eq hbound
  have hsame : (rule.readBack bound).body (bound.map Civil.wholeSecond) = rule.body bound := by
    cases bound <;> rfl
  rw [hsame, ← htext, String.toList_inj] at hbody
  rw [hagain, hbody]

/-- Plain text gives back what a rule was written as, and this is written in the same way. -/
theorem written_isReadAs {rule : Rule} (hnumbers : rule.HasReadableNumbers)
    (hbound : ∀ moment, rule.bound = some moment →
      ∃ utc, moment.toUtc = .ok utc ∧ 1000 ≤ utc.date.year) :
    ∃ text again, rule.written = .ok text ∧ PlainReading.ofValue (.text text) = ⟨true, some again, none⟩ ∧
      rule.IsReadAs again ∧ again.written = .ok text := by
  obtain ⟨bound, hat, hyear⟩ : ∃ bound, BoundAt rule.bound bound ∧
      ∀ civil, bound = some civil → 1000 ≤ civil.date.year := by
    cases hgiven : rule.bound with
    | none => exact ⟨none, .none, by simp⟩
    | some moment =>
      obtain ⟨utc, hutc, hyear⟩ := hbound moment hgiven
      exact ⟨some utc, .some hutc, by simpa using hyear⟩
  obtain ⟨text, hwritten, htext⟩ := written_eq hat
  have hplain : ofPlainText text = .ok (rule.readBack bound) := by
    rw [ofPlainText_of_isReadable htext (isReadable_body hnumbers hyear), plainDraft_body hyear]
    rfl
  exact ⟨text, rule.readBack bound, hwritten, PlainReading.ofValue_of_ok hplain,
    ⟨rfl, rfl, rfl, boundAt_isReadAs hat, rfl, rfl, rfl, rfl, rfl⟩, written_readBack htext⟩

/-- Every week up to a moment. -/
def weeksUntil (bound : Moment) : Rule where
  frequency := .weekly
  interval := some .one
  bound := some bound

/-- A bound at an offset is written in universal time, on the day before, and its fraction of a second is lost. -/
theorem weeksUntil_isReadAs :
    ∃ civil text again, Civil.ofFields 2025 1 1 4 30 0 250000 = .ok civil ∧
      (weeksUntil ⟨civil, .fixed 19800, false⟩).written = .ok text ∧
      text = "RRULE:FREQ=WEEKLY;INTERVAL=1;UNTIL=20241231T230000Z" ∧
      PlainReading.ofValue (.text text) = ⟨true, some again, none⟩ ∧
      (weeksUntil ⟨civil, .fixed 19800, false⟩).IsReadAs again ∧ again.written = .ok text := by
  obtain ⟨civil, hcivil⟩ : ∃ civil, Civil.ofFields 2025 1 1 4 30 0 250000 = .ok civil := ⟨_, rfl⟩
  have hnumbers : (weeksUntil ⟨civil, .fixed 19800, false⟩).HasReadableNumbers := by
    refine ⟨fun number hnumber => ?_, fun number hnumber => ?_⟩
    · cases hnumber
      decide
    · cases hnumber
  have hbound : ∀ moment, (weeksUntil ⟨civil, .fixed 19800, false⟩).bound = some moment →
      ∃ utc, moment.toUtc = .ok utc ∧ 1000 ≤ utc.date.year := by
    intro moment hmoment
    cases hmoment
    cases hcivil
    exact ⟨_, rfl, by decide +kernel⟩
  have hvalue : (weeksUntil ⟨civil, .fixed 19800, false⟩).written =
      .ok "RRULE:FREQ=WEEKLY;INTERVAL=1;UNTIL=20241231T230000Z" := by
    cases hcivil
    exact toOption_eq_some_iff.1 (by decide +kernel)
  obtain ⟨text, again, hwritten, hread, hback, hagain⟩ := written_isReadAs hnumbers hbound
  have htext := Except.ok.inj (hwritten.symm.trans hvalue)
  exact ⟨civil, text, again, hcivil, hwritten, htext, hread, hback, hagain⟩

end Rule

end Recurrence
