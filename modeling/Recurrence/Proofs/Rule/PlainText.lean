import Recurrence.Proofs.Outcome
import Recurrence.Proofs.Rule.Meaning
import Recurrence.Proofs.Rule.Zoned
import Recurrence.Rule.Plain

namespace Recurrence

/-- A text that starts with a rule declaration, and the body that is the rest of the text. -/
def IsPlainBody (text : String) (body : List Char) : Prop :=
  text.toList = "RRULE:".toList ++ body

/-- Whether the reading of plain text fails at a segment: at a bound that is no instant, and at a numeral that
    is too long. -/
def Segment.FailsPlain (segment : Segment) : Prop :=
  match segment.key with
  | .interval => Text.StartsTooLong segment.value
  | .count => Text.StartsTooLong segment.value
  | .bound => ∃ error, readInstant segment.text = .error error
  | .frequency | .weekStart | .weekdays | .positions => False

/-- A body in which plain text can be read to the end: its bounds are instants, its numerals not too long. -/
structure IsReadable (body : List Char) : Prop where
  bounds : ∀ value ∈ Segment.values "UNTIL" body, ∃ instant, readInstant (String.ofList value) = .ok instant
  intervals : ∀ value ∈ Segment.values "INTERVAL" body, ¬ Text.StartsTooLong value
  counts : ∀ value ∈ Segment.values "COUNT" body, ¬ Text.StartsTooLong value

theorem isReadable_iff {body : List Char} :
    IsReadable body ↔ ∀ segment ∈ Segment.readAll body, ¬ segment.FailsPlain := by
  constructor
  · rintro ⟨hbounds, hintervals, hcounts⟩ ⟨key, value⟩ hsegment hfails
    have hvalue := Segment.mem_values_iff.2 hsegment
    cases key with
    | interval => exact hintervals value hvalue hfails
    | count => exact hcounts value hvalue hfails
    | bound =>
      obtain ⟨error, herror⟩ := hfails
      obtain ⟨instant, hinstant⟩ := hbounds value hvalue
      rw [Segment.text, hinstant] at herror
      cases herror
    | frequency => exact hfails
    | weekStart => exact hfails
    | weekdays => exact hfails
    | positions => exact hfails
  · intro hreads
    refine ⟨fun value hvalue => ?_, fun value hvalue => ?_, fun value hvalue => ?_⟩
    · have hnot := hreads ⟨.bound, value⟩ (Segment.mem_values_iff.1 hvalue)
      cases hinstant : readInstant (String.ofList value) with
      | ok instant => exact ⟨instant, rfl⟩
      | error error => exact absurd ⟨error, hinstant⟩ hnot
    · exact hreads ⟨.interval, value⟩ (Segment.mem_values_iff.1 hvalue)
    · exact hreads ⟨.count, value⟩ (Segment.mem_values_iff.1 hvalue)

/-- A body that names a frequency. -/
def NamesFrequency (body : List Char) : Prop :=
  ∃ value ∈ Segment.values "FREQ" body, ∃ frequency, Frequency.Names value frequency

namespace PlainDraft

/-- What a segment changes at which the reading does not fail. -/
def noting (draft : PlainDraft) (segment : Segment) : PlainDraft :=
  match segment.key with
  | .frequency => { draft with frequency := (Frequency.ofToken? segment.text).or draft.frequency }
  | .interval => { draft with interval := some ((leadingPositive? segment.value).getD .one) }
  | .count => { draft with count := leadingPositive? segment.value }
  | .bound => { draft with bound := (readInstant segment.text).toOption }
  | .weekStart | .weekdays | .positions => draft

theorem withSegment_of_not_failsPlain (draft : PlainDraft) {segment : Segment}
    (hreads : ¬ segment.FailsPlain) : draft.withSegment segment = .ok (draft.noting segment) := by
  obtain ⟨key, value⟩ := segment
  unfold Segment.FailsPlain at hreads
  cases key with
  | interval =>
    simp only [withSegment, readInterval_of_not_startsTooLong hreads]
    rfl
  | count =>
    simp only [withSegment, readPositive_of_not_startsTooLong hreads]
    rfl
  | bound =>
    simp only [withSegment, noting]
    cases hinstant : readInstant (Segment.text ⟨.bound, value⟩) with
    | ok instant => rfl
    | error error => exact absurd ⟨error, hinstant⟩ hreads
  | frequency => rfl
  | weekStart => rfl
  | weekdays => rfl
  | positions => rfl

theorem withSegment_interval (draft : PlainDraft) (value : List Char) :
    draft.withSegment ⟨.interval, value⟩ =
      ((readInterval value).mapError .numeral).map fun interval =>
        { draft with interval := some interval } := rfl

theorem withSegment_count (draft : PlainDraft) (value : List Char) :
    draft.withSegment ⟨.count, value⟩ =
      ((readPositive value).mapError .numeral).map fun count => { draft with count } := rfl

theorem withSegment_bound (draft : PlainDraft) (value : List Char) :
    draft.withSegment ⟨.bound, value⟩ =
      ((readInstant (String.ofList value)).mapError .bound).map fun bound =>
        { draft with bound := some bound } := rfl

/-- A segment fails on its bound or its numeral and on nothing else, whatever came before it. -/
theorem withSegment_fails_iff (draft : PlainDraft) (segment : Segment) :
    (∃ error, draft.withSegment segment = .error error) ↔ segment.FailsPlain := by
  obtain ⟨key, value⟩ := segment
  unfold Segment.FailsPlain
  cases key with
  | interval =>
    rw [withSegment_interval, map_fails_iff, mapError_fails_iff, readInterval, map_fails_iff,
      readPositive_fails_iff]
  | count => rw [withSegment_count, map_fails_iff, mapError_fails_iff, readPositive_fails_iff]
  | bound =>
    rw [withSegment_bound, map_fails_iff, mapError_fails_iff]
    rfl
  | frequency => simp [withSegment]
  | weekStart => simp [withSegment]
  | weekdays => simp [withSegment]
  | positions => simp [withSegment]

theorem withSegment_error {draft : PlainDraft} {segment : Segment} {error : PlainError}
    (herror : draft.withSegment segment = .error error) :
    (∃ cause, error = .numeral cause) ∨ ∃ cause, error = .bound cause := by
  obtain ⟨key, value⟩ := segment
  cases key with
  | interval =>
    rw [withSegment_interval, map_eq_error_iff, mapError_eq_error_iff] at herror
    obtain ⟨cause, -, rfl⟩ := herror
    exact Or.inl ⟨cause, rfl⟩
  | count =>
    rw [withSegment_count, map_eq_error_iff, mapError_eq_error_iff] at herror
    obtain ⟨cause, -, rfl⟩ := herror
    exact Or.inl ⟨cause, rfl⟩
  | bound =>
    rw [withSegment_bound, map_eq_error_iff, mapError_eq_error_iff] at herror
    obtain ⟨cause, -, rfl⟩ := herror
    exact Or.inr ⟨cause, rfl⟩
  | frequency => cases herror
  | weekStart => cases herror
  | weekdays => cases herror
  | positions => cases herror

/-- What the values of each key make of a draft. -/
def withValues (draft : PlainDraft) (values : SegmentKey → List (List Char)) : PlainDraft where
  frequency := ((values .frequency).filterMap fun value =>
    Frequency.ofToken? (String.ofList value)).getLast?.or draft.frequency
  interval := ((values .interval).getLast?.map fun value =>
    (leadingPositive? value).getD .one).or draft.interval
  count := ((values .count).getLast?.map leadingPositive?).getD draft.count
  bound := ((values .bound).getLast?.map fun value =>
    (readInstant (String.ofList value)).toOption).getD draft.bound

theorem foldl_noting (segments : List Segment) (draft : PlainDraft) :
    segments.foldl noting draft = draft.withValues (Segment.valuesOf · segments) := by
  induction segments generalizing draft with
  | nil => rfl
  | cons segment rest ih =>
    rw [List.foldl_cons, ih]
    obtain ⟨key, value⟩ := segment
    cases key <;>
      simp [withValues, noting, Segment.valuesOf_cons, Segment.text, getLast?_cons_or, Option.or_assoc]

end PlainDraft

/-- What the body of plain text says of a rule. -/
structure Rule.IsPlainlyGivenBy (rule : Rule) (body : List Char) : Prop where
  frequency : LastMeaning Frequency.Names (Segment.values "FREQ" body) (some rule.frequency)
  interval : GivesInterval (Segment.values "INTERVAL" body) rule.interval
  count : GivesCount (Segment.values "COUNT" body) rule.count
  bound : ∀ bound, rule.bound = some bound ↔ ∃ value instant,
    (Segment.values "UNTIL" body).getLast? = some value ∧
      readInstant (String.ofList value) = .ok instant ∧ bound = .utc instant
  start : rule.start = none
  declaredZone : rule.declaredZone = none
  weekStart : rule.weekStart = none
  byWeekday : rule.byWeekday = none
  bySetPosition : rule.bySetPosition = none

namespace Rule

theorem ofPlainText_of_not_isPlainBody {text : String} (hnone : ¬ ∃ body, IsPlainBody text body) :
    ofPlainText text = .error .noDeclaration := by
  have hafter : Text.after? "RRULE:".toList text.toList = none := by
    rw [Text.after?_eq_none_iff]
    rintro ⟨body, hbody⟩
    exact hnone ⟨body, hbody.symm⟩
  unfold ofPlainText
  rw [hafter]

/-- The draft of a body that can be read to the end. -/
def plainDraft (body : List Char) : PlainDraft :=
  ({} : PlainDraft).withValues fun key => Segment.values key.name body

theorem ofPlainText_of_body {text : String} {body : List Char}
    (hbody : IsPlainBody text body) :
    ofPlainText text = ((Segment.readAll body).foldlM PlainDraft.withSegment {}).bind PlainDraft.finish := by
  unfold ofPlainText
  rw [Text.after?_eq_some_iff.2 hbody]
  rfl

theorem ofPlainText_of_not_isReadable {text : String} {body : List Char}
    (hbody : IsPlainBody text body) (hreadable : ¬ IsReadable body) :
    ∃ error, ofPlainText text = .error error ∧
      ((∃ cause, error = .numeral cause) ∨ ∃ cause, error = .bound cause) := by
  simp only [isReadable_iff, not_forall, not_not, exists_prop] at hreadable
  obtain ⟨error, herror⟩ := (foldlM_fails_iff PlainDraft.withSegment_fails_iff {}).2 hreadable
  obtain ⟨segment, -, reached, hsegment⟩ := exists_of_foldlM_eq_error herror
  refine ⟨error, ?_, PlainDraft.withSegment_error hsegment⟩
  rw [ofPlainText_of_body hbody, herror]
  rfl

theorem ofPlainText_of_isReadable {text : String} {body : List Char}
    (hbody : IsPlainBody text body) (hreadable : IsReadable body) :
    ofPlainText text = (plainDraft body).finish := by
  have hsegments : ∀ draft : PlainDraft, ∀ segment ∈ Segment.readAll body,
      draft.withSegment segment = .ok (draft.noting segment) := by
    intro draft segment hsegment
    exact draft.withSegment_of_not_failsPlain (isReadable_iff.1 hreadable segment hsegment)
  rw [ofPlainText_of_body hbody, foldlM_eq_ok_foldl hsegments, PlainDraft.foldl_noting]
  simp only [Segment.valuesOf_readAll]
  rfl

theorem lastMeaning_plainDraft (body : List Char) :
    LastMeaning Frequency.Names (Segment.values "FREQ" body) (plainDraft body).frequency := by
  have hlast := lastMeaning_filterMap Frequency.ofToken?_ofList_eq_some_iff (Segment.values "FREQ" body)
  rwa [← Option.or_none (o := List.getLast? _)] at hlast

theorem namesFrequency_iff {body : List Char} :
    NamesFrequency body ↔ ∃ frequency, (plainDraft body).frequency = some frequency := by
  constructor
  · rintro ⟨value, hvalue, frequency, hnames⟩
    cases hlast : (plainDraft body).frequency with
    | none =>
      have hnone := lastMeaning_plainDraft body
      rw [hlast] at hnone
      cases hnone with
      | none hnone => exact absurd hnames (hnone value hvalue frequency)
    | some frequency => exact ⟨frequency, rfl⟩
  · rintro ⟨frequency, hfrequency⟩
    have hlast := lastMeaning_plainDraft body
    rw [hfrequency] at hlast
    cases hlast with
    | @some before after value _ hvalues hnames _ =>
      have hmem : value ∈ Segment.values "FREQ" body := by
        rw [hvalues]
        exact List.mem_append_right before List.mem_cons_self
      exact ⟨value, hmem, frequency, hnames⟩

theorem ofPlainText_of_not_namesFrequency {text : String} {body : List Char}
    (hbody : IsPlainBody text body) (hreadable : IsReadable body) (hnames : ¬ NamesFrequency body) :
    ofPlainText text = .error .noFrequency := by
  rw [ofPlainText_of_isReadable hbody hreadable, PlainDraft.finish]
  cases hfrequency : (plainDraft body).frequency with
  | none => rfl
  | some frequency => exact absurd (namesFrequency_iff.2 ⟨frequency, hfrequency⟩) hnames

/-- A draft with a frequency is finished as the rule that the body says. -/
theorem finish_plainDraft {body : List Char} {frequency : Frequency}
    (hfrequency : (plainDraft body).frequency = some frequency) :
    ∃ rule, (plainDraft body).finish = .ok rule ∧ rule.IsPlainlyGivenBy body := by
  have hlast := lastMeaning_plainDraft body
  rw [hfrequency] at hlast
  unfold PlainDraft.finish
  rw [hfrequency]
  refine ⟨_, rfl, hlast, ?_, ?_, ?_, rfl, rfl, rfl, rfl, rfl⟩
  · have hinterval := givesInterval_last (Segment.values "INTERVAL" body)
    rwa [← Option.or_none (o := Option.map _ _)] at hinterval
  · have hcount := givesCount_last (Segment.values "COUNT" body)
    rwa [← getD_map_none] at hcount
  · intro bound
    change ((Option.map _ (Segment.values "UNTIL" body).getLast?).getD none).map Moment.utc = some bound ↔ _
    rw [getD_map_none]
    simp only [Option.map_eq_some_iff, Option.bind_eq_some_iff, toOption_eq_some_iff]
    constructor
    · rintro ⟨instant, ⟨value, hvalue, hinstant⟩, rfl⟩
      exact ⟨value, instant, hvalue, hinstant, rfl⟩
    · rintro ⟨value, instant, hvalue, hinstant, rfl⟩
      exact ⟨instant, ⟨value, hvalue, hinstant⟩, rfl⟩

end Rule

namespace PlainError

theorem message_of_parse {error : PlainError}
    (hparse : (∃ cause, error = .numeral cause) ∨ ∃ cause, error = .bound cause) :
    ∃ detail, error.message = "Parse error: " ++ detail := by
  rcases hparse with ⟨cause, rfl⟩ | ⟨cause, rfl⟩
  · exact ⟨cause.message, rfl⟩
  · exact ⟨cause.message, rfl⟩

theorem noDeclaration_ne_parse (detail : String) :
    PlainError.noDeclaration.message ≠ "Parse error: " ++ detail := by
  intro hsame
  have hfirst := congrArg (fun text : String => text.toList.head?) hsame
  simp [message] at hfirst

theorem noFrequency_ne_parse (detail : String) :
    PlainError.noFrequency.message ≠ "Parse error: " ++ detail := by
  intro hsame
  have hfirst := congrArg (fun text : String => text.toList.head?) hsame
  simp [message] at hfirst

theorem noFrequency_ne_noDeclaration :
    PlainError.noFrequency.message ≠ PlainError.noDeclaration.message := by
  decide +kernel

end PlainError

namespace PlainReading

/-- What the reading of plain text comes to. -/
structure Reports (reading : PlainReading) (text : String) : Prop where
  valid_iff : reading.valid = true ↔
    ∃ body, IsPlainBody text body ∧ NamesFrequency body ∧ IsReadable body
  rule_of_valid : reading.valid = true → reading.error = none ∧
    ∃ rule body, reading.rule = some rule ∧ IsPlainBody text body ∧ rule.IsPlainlyGivenBy body
  error_of_invalid : reading.valid = false → reading.rule = none ∧ ∃ message, reading.error = some message
  noDeclaration_iff : reading.error = some "Invalid RRULE format" ↔ ¬ ∃ body, IsPlainBody text body
  noFrequency_iff : reading.error = some "FREQ is required" ↔
    ∃ body, IsPlainBody text body ∧ IsReadable body ∧ ¬ NamesFrequency body
  parse_iff : (∃ detail, reading.error = some ("Parse error: " ++ detail)) ↔
    ∃ body, IsPlainBody text body ∧ ¬ IsReadable body

theorem ofValue_of_error {text : String} {error : PlainError} (herror : Rule.ofPlainText text = .error error) :
    ofValue (.text text) = ⟨false, none, some error.message⟩ := by
  simp only [ofValue, Rule.ofPlainValue, herror]

theorem ofValue_of_ok {text : String} {rule : Rule} (hrule : Rule.ofPlainText text = .ok rule) :
    ofValue (.text text) = ⟨true, some rule, none⟩ := by
  simp only [ofValue, Rule.ofPlainValue, hrule]

theorem reports_of_not_isPlainBody {text : String} (hnone : ¬ ∃ body, IsPlainBody text body) :
    Reports ⟨false, none, some PlainError.noDeclaration.message⟩ text where
  valid_iff := by simp_all
  rule_of_valid := by simp
  error_of_invalid := by simp
  noDeclaration_iff := by
    rw [iff_true_right hnone]
    rfl
  noFrequency_iff := by
    have hother : some PlainError.noDeclaration.message ≠ some "FREQ is required" :=
      fun hsame => PlainError.noFrequency_ne_noDeclaration (Option.some.inj hsame).symm
    simp_all
  parse_iff := by
    simp only [Option.some.injEq]
    constructor
    · rintro ⟨detail, hsame⟩
      exact absurd hsame (PlainError.noDeclaration_ne_parse detail)
    · rintro ⟨body, hbody, -⟩
      exact absurd ⟨body, hbody⟩ hnone

section Body

variable {text : String} {body : List Char} (hbody : IsPlainBody text body)

include hbody

theorem exists_isPlainBody_iff {P : List Char → Prop} :
    (∃ other, IsPlainBody text other ∧ P other) ↔ P body := by
  constructor
  · rintro ⟨other, hother, hholds⟩
    rw [IsPlainBody, hbody, List.append_cancel_left_eq] at hother
    rwa [hother]
  · intro hholds
    exact ⟨body, hbody, hholds⟩

theorem reports_of_not_isReadable (hreadable : ¬ IsReadable body) (detail : String) :
    Reports ⟨false, none, some ("Parse error: " ++ detail)⟩ text where
  valid_iff := by simp [exists_isPlainBody_iff hbody, hreadable]
  rule_of_valid := by simp
  error_of_invalid := by simp
  noDeclaration_iff := by
    refine iff_of_false (fun hsame => ?_) (not_not.2 ⟨body, hbody⟩)
    exact PlainError.noDeclaration_ne_parse detail (Option.some.inj hsame).symm
  noFrequency_iff := by
    rw [exists_isPlainBody_iff hbody]
    refine iff_of_false (fun hsame => ?_) (fun hboth => hreadable hboth.1)
    exact PlainError.noFrequency_ne_parse detail (Option.some.inj hsame).symm
  parse_iff := by
    rw [exists_isPlainBody_iff hbody]
    exact iff_of_true ⟨detail, rfl⟩ hreadable

theorem reports_of_not_namesFrequency (hreadable : IsReadable body) (hnames : ¬ NamesFrequency body) :
    Reports ⟨false, none, some PlainError.noFrequency.message⟩ text where
  valid_iff := by simp [exists_isPlainBody_iff hbody, hnames]
  rule_of_valid := by simp
  error_of_invalid := by simp
  noDeclaration_iff := by
    refine iff_of_false (fun hsame => ?_) (not_not.2 ⟨body, hbody⟩)
    exact PlainError.noFrequency_ne_noDeclaration (Option.some.inj hsame)
  noFrequency_iff := by
    rw [exists_isPlainBody_iff hbody]
    exact iff_of_true rfl ⟨hreadable, hnames⟩
  parse_iff := by
    rw [exists_isPlainBody_iff hbody]
    refine iff_of_false ?_ (not_not.2 hreadable)
    rintro ⟨detail, hsame⟩
    exact PlainError.noFrequency_ne_parse detail (Option.some.inj hsame)

theorem reports_of_rule (hreadable : IsReadable body) (hnames : NamesFrequency body) {rule : Rule}
    (hgiven : rule.IsPlainlyGivenBy body) : Reports ⟨true, some rule, none⟩ text where
  valid_iff := by simp [exists_isPlainBody_iff hbody, hnames, hreadable]
  rule_of_valid := fun _ => ⟨rfl, rule, body, rfl, hbody, hgiven⟩
  error_of_invalid := by simp
  noDeclaration_iff := iff_of_false (by simp) (not_not.2 ⟨body, hbody⟩)
  noFrequency_iff := by simp [exists_isPlainBody_iff hbody, hnames]
  parse_iff := by simp [exists_isPlainBody_iff hbody, hreadable]

end Body

/-- Plain text is read as a rule or reported as one of three things: that it is no declaration, that a bound
    or a numeral of it cannot be read, or else that it names no frequency. -/
theorem ofValue_reports (text : String) : (ofValue (.text text)).Reports text := by
  by_cases hplain : ∃ body, IsPlainBody text body
  · obtain ⟨body, hbody⟩ := hplain
    by_cases hreadable : IsReadable body
    · by_cases hnames : NamesFrequency body
      · obtain ⟨frequency, hfrequency⟩ := Rule.namesFrequency_iff.1 hnames
        obtain ⟨rule, hfinish, hgiven⟩ := Rule.finish_plainDraft hfrequency
        rw [← Rule.ofPlainText_of_isReadable hbody hreadable] at hfinish
        rw [ofValue_of_ok hfinish]
        exact reports_of_rule hbody hreadable hnames hgiven
      · rw [ofValue_of_error (Rule.ofPlainText_of_not_namesFrequency hbody hreadable hnames)]
        exact reports_of_not_namesFrequency hbody hreadable hnames
    · obtain ⟨error, herror, hparse⟩ := Rule.ofPlainText_of_not_isReadable hbody hreadable
      obtain ⟨detail, hdetail⟩ := PlainError.message_of_parse hparse
      rw [ofValue_of_error herror, hdetail]
      exact reports_of_not_isReadable hbody hreadable detail
  · rw [ofValue_of_error (Rule.ofPlainText_of_not_isPlainBody hplain)]
    exact reports_of_not_isPlainBody hplain

end PlainReading

end Recurrence
