import Recurrence.Proofs.Moment.Compact
import Recurrence.Proofs.Rule.Declaration
import Recurrence.Proofs.Rule.Meaning
import Recurrence.Proofs.Rule.Zoned

namespace Recurrence

/-- A value that starts with a compact literal of a bound, with the end of the day for what is missing. -/
def BoundMeans (value : List Char) (bound : Moment) : Prop :=
  ∃ fields civil, CompactFields.Begins value fields ∧ fields.Means .endOfDay civil ∧ bound = .utc civil

theorem readCompact_map_utc_eq_some_iff (value : List Char) (bound : Moment) :
    (readCompact (String.ofList value) .endOfDay).toOption.map Moment.utc = some bound ↔
      BoundMeans value bound := by
  rw [Option.map_eq_some_iff]
  simp only [toOption_eq_some_iff, readCompact_eq_ok_iff, String.toList_ofList]
  constructor
  · rintro ⟨civil, ⟨fields, hbegins, hmeans⟩, rfl⟩
    exact ⟨fields, civil, hbegins, hmeans, rfl⟩
  · rintro ⟨fields, civil, hbegins, hmeans, rfl⟩
    exact ⟨civil, ⟨fields, hbegins, hmeans⟩, rfl⟩

/-- A start declaration whose literal is a civil time. -/
def StartDeclaration.IsAt (declaration : StartDeclaration) (start : Civil) : Prop :=
  ∃ fields, CompactFields.Begins declaration.literal.toList fields ∧ fields.Means .midnight start

namespace Rule

/-- What the body of a rule declaration says of a rule in zoned text. -/
structure IsGivenBy (rule : Rule) (body : List Char) : Prop where
  frequency : ∃ found, LastMeaning Frequency.Names (Segment.values "FREQ" body) found ∧
    rule.frequency = found.getD .daily
  interval : GivesInterval (Segment.values "INTERVAL" body) rule.interval
  count : GivesCount (Segment.values "COUNT" body) rule.count
  bound : LastMeaning BoundMeans (Segment.values "UNTIL" body) rule.bound
  weekStart : ∃ found, LastMeaning Weekday.Names (Segment.values "WKST" body) found ∧
    rule.weekStart = some (found.getD .monday)
  byWeekday : GivesWeekdays (Segment.values "BYDAY" body) rule.byWeekday
  bySetPosition : GivesPositions (Segment.values "BYSETPOS" body) rule.bySetPosition

/-- What a segment changes, if its numerals can be read. -/
def noting (rule : Rule) (segment : Segment) : Rule :=
  match segment.key with
  | .frequency => { rule with frequency := (Frequency.ofToken? segment.text).getD rule.frequency }
  | .interval => { rule with interval := some ((leadingPositive? segment.value).getD .one) }
  | .bound =>
    { rule with
      bound := ((readCompact segment.text .endOfDay).toOption.map Moment.utc).or rule.bound }
  | .weekStart => { rule with weekStart := (Weekday.ofToken? segment.text).or rule.weekStart }
  | .weekdays => { rule with byWeekday := some (readWeekdays segment.items) }
  | .positions => { rule with bySetPosition := leadingPositions? segment.value }
  | .count => { rule with count := leadingPositive? segment.value }

theorem withSegment_of_not_holdsTooLong (rule : Rule) {segment : Segment}
    (hshort : ¬ segment.HoldsTooLong) : rule.withSegment segment = .ok (rule.noting segment) := by
  obtain ⟨key, value⟩ := segment
  unfold Segment.HoldsTooLong at hshort
  cases key with
  | frequency => rfl
  | interval =>
    rw [withSegment_interval, readInterval_of_not_startsTooLong hshort]
    rfl
  | bound =>
    simp only [withSegment, noting]
    cases readCompact _ _ <;> rfl
  | weekStart =>
    simp only [withSegment, noting]
    cases Weekday.ofToken? _ <;> rfl
  | weekdays => rfl
  | positions =>
    have hitems : ∀ item ∈ Text.fields ',' value, ¬ Text.StartsTooLong item := by
      intro item hitem hlong
      exact hshort ⟨item, hitem, hlong⟩
    rw [withSegment_positions, readPositions_of_not_startsTooLong hitems]
    rfl
  | count =>
    rw [withSegment_count, readPositive_of_not_startsTooLong hshort]
    rfl

/-- What the values of each key make of a rule. -/
def withValues (rule : Rule) (values : SegmentKey → List (List Char)) : Rule :=
  { rule with
    frequency := ((values .frequency).filterMap fun value =>
      Frequency.ofToken? (String.ofList value)).getLast?.getD rule.frequency
    interval := ((values .interval).getLast?.map fun value =>
      (leadingPositive? value).getD .one).or rule.interval
    bound := ((values .bound).filterMap fun value =>
      (readCompact (String.ofList value) .endOfDay).toOption.map Moment.utc).getLast?.or rule.bound
    count := ((values .count).getLast?.map leadingPositive?).getD rule.count
    weekStart := ((values .weekStart).filterMap fun value =>
      Weekday.ofToken? (String.ofList value)).getLast?.or rule.weekStart
    byWeekday := ((values .weekdays).getLast?.map fun value =>
      readWeekdays (Text.fields ',' value)).or rule.byWeekday
    bySetPosition := ((values .positions).getLast?.map leadingPositions?).getD rule.bySetPosition }

/-- Segments change a rule as the values of each key do, whatever the order among the keys. -/
theorem foldl_noting (segments : List Segment) (rule : Rule) :
    segments.foldl noting rule = rule.withValues (Segment.valuesOf · segments) := by
  induction segments generalizing rule with
  | nil => rfl
  | cons segment rest ih =>
    rw [List.foldl_cons, ih]
    obtain ⟨key, value⟩ := segment
    cases key <;>
      simp [withValues, noting, Segment.valuesOf_cons, Segment.text, Segment.items, getLast?_cons_or,
        Option.or_assoc]

/-- A rule that starts with nothing set becomes what the body says. -/
theorem isGivenBy_withValues (zone : String) (start : Civil) (body : List Char) :
    ((opening zone start).withValues fun key => Segment.values key.name body).IsGivenBy body where
  frequency := ⟨_, lastMeaning_filterMap Frequency.ofToken?_ofList_eq_some_iff _, rfl⟩
  interval := by
    have hinterval := givesInterval_last (Segment.values "INTERVAL" body)
    rwa [← Option.or_none (o := Option.map _ _)] at hinterval
  count := by
    have hcount := givesCount_last (Segment.values "COUNT" body)
    rwa [← getD_map_none] at hcount
  bound := by
    have hbound := lastMeaning_filterMap readCompact_map_utc_eq_some_iff (Segment.values "UNTIL" body)
    rwa [← Option.or_none (o := List.getLast? _)] at hbound
  weekStart := ⟨_, lastMeaning_filterMap Weekday.ofToken?_ofList_eq_some_iff _, Option.or_some⟩
  byWeekday := by
    have hdays := givesWeekdays_last (Segment.values "BYDAY" body)
    rwa [← Option.or_none (o := Option.map _ _)] at hdays
  bySetPosition := by
    have hpositions := givesPositions_last (Segment.values "BYSETPOS" body)
    rwa [← getD_map_none] at hpositions

/-- The rule of a text with both declarations, where all numerals can be read. -/
theorem ofZonedText_eq {text : String} {declaration : StartDeclaration} {body : List Char} {start : Civil}
    (hshort : ¬ HoldsTooLong text) (hdeclaration : StartDeclaration.find? text.toList = some declaration)
    (hbody : ruleBody? text.toList = some body)
    (hstart : readCompact declaration.literal .midnight = .ok start) :
    ofZonedText text = .ok (some
      ((opening declaration.zone start).withValues fun key => Segment.values key.name body)) := by
  have hsegments : ∀ rule : Rule, ∀ segment ∈ Segment.readAll body,
      rule.withSegment segment = .ok (rule.noting segment) := by
    intro rule segment hsegment
    apply withSegment_of_not_holdsTooLong
    intro hlong
    exact hshort ⟨declaration, body, start, hdeclaration, hbody, hstart, segment, hsegment, hlong⟩
  rw [ofZonedText_of_declared hdeclaration hbody hstart, foldlM_eq_ok_foldl hsegments, foldl_noting]
  simp only [Segment.valuesOf_readAll]
  rfl

theorem readCompact_literal_eq_ok_iff {declaration : StartDeclaration} {start : Civil} :
    readCompact declaration.literal .midnight = .ok start ↔ declaration.IsAt start :=
  readCompact_eq_ok_iff

/-- Zoned text is a rule exactly if its leftmost start declaration is a civil time and it has a rule
    declaration with a body; the body of the leftmost one then says what the rule is. -/
theorem ofZonedText_gives {text : String} (hshort : ¬ HoldsTooLong text) :
    ∃ found, ofZonedText text = .ok found ∧
      (found.isSome = true ↔
        (∃ declaration start, Text.Leftmost StartDeclaration.Begins text.toList declaration ∧
          declaration.IsAt start) ∧
        ∃ body, Text.Leftmost RuleBodyBegins text.toList body) ∧
      ∀ rule, found = some rule → ∃ declaration start body,
        Text.Leftmost StartDeclaration.Begins text.toList declaration ∧ declaration.IsAt start ∧
        Text.Leftmost RuleBodyBegins text.toList body ∧ rule.start = some (.utc start) ∧
        rule.declaredZone = some declaration.zone ∧ rule.IsGivenBy body := by
  simp only [← StartDeclaration.find?_eq_some_iff, ← ruleBody?_eq_some_iff,
    ← readCompact_literal_eq_ok_iff]
  cases hdeclaration : StartDeclaration.find? text.toList with
  | none => exact ⟨none, by simp [ofZonedText, hdeclaration], by simp, by simp⟩
  | some declaration =>
    cases hbody : ruleBody? text.toList with
    | none => exact ⟨none, by simp [ofZonedText, hdeclaration, hbody], by simp, by simp⟩
    | some body =>
      cases hstart : readCompact declaration.literal .midnight with
      | error cause =>
        refine ⟨none, by simp [ofZonedText, hdeclaration, hbody, hstart], ?_, by simp⟩
        simp [hstart]
      | ok start =>
        refine ⟨_, ofZonedText_eq hshort hdeclaration hbody hstart, ?_, ?_⟩
        · simp [hstart]
        · intro rule hrule
          cases hrule
          exact ⟨declaration, start, body, rfl, hstart, rfl, rfl, rfl, isGivenBy_withValues _ _ _⟩

/-- Rule text with an empty rule declaration, keys that repeat and values that cannot be understood. -/
def scrappyText : String :=
  "DTSTART;TZID=UTC:20240229T120000\nRRULE:\nRRULE:COUNT=4;FREQ=MONTHLY; INTERVAL = -3 ;" ++
    "UNTIL=20250630;UNTIL=x;COUNT=x;BYDAY=FR,x;BYSETPOS=+2nd,x"

/-- The second rule declaration decides; a count that is no number takes back the one before it, and
    a bound that is no date does not. -/
theorem scrappyText_gives :
    ¬ HoldsTooLong scrappyText ∧ ∃ rule, ofZonedText scrappyText = .ok (some rule) ∧
      (rule.frequency = .monthly ∧ rule.interval = some .one ∧ rule.count = none ∧
        rule.bound.map (·.civil.time.secondOfDay) = some 86399 ∧ rule.weekStart = some .monday ∧
        rule.byWeekday = some [.friday, .monday] ∧ rule.bySetPosition = some [2]) ∧
      ∃ declaration start body,
        Text.Leftmost StartDeclaration.Begins scrappyText.toList declaration ∧ declaration.IsAt start ∧
        Text.Leftmost RuleBodyBegins scrappyText.toList body ∧ rule.start = some (.utc start) ∧
        rule.declaredZone = some declaration.zone ∧ rule.IsGivenBy body := by
  have hvalue : ∃ rule, (ofZonedText scrappyText).toOption.join = some rule ∧ decide
      (rule.frequency = .monthly ∧ rule.interval = some .one ∧ rule.count = none ∧
        rule.bound.map (·.civil.time.secondOfDay) = some 86399 ∧ rule.weekStart = some .monday ∧
        rule.byWeekday = some [.friday, .monday] ∧ rule.bySetPosition = some [2]) = true :=
    (Option.any_eq_true _ _).1 (by decide +kernel)
  obtain ⟨rule, hrule, hparts⟩ := hvalue
  have hread := toOption_eq_some_iff.1 (Option.join_eq_some_iff.1 hrule)
  have hshort := not_holdsTooLong_of_ok hread
  obtain ⟨found, hfound, -, hgives⟩ := ofZonedText_gives hshort
  rw [hread] at hfound
  cases hfound
  exact ⟨hshort, rule, hread, of_decide_eq_true hparts, hgives rule rfl⟩

end Rule

end Recurrence
