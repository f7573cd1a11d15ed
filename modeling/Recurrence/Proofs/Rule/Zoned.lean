import Recurrence.Proofs.Outcome
import Recurrence.Proofs.Text.Integer
import Recurrence.Rule.Zoned

namespace Recurrence

theorem readPositive_fails_iff {value : List Char} :
    (∃ error, readPositive value = .error error) ↔ Text.StartsTooLong value := by
  rw [readPositive, map_fails_iff, Text.leadingInteger_fails_iff]

theorem readPositions_fails_iff {items : List (List Char)} :
    (∃ error, readPositions items = .error error) ↔ ∃ item ∈ items, Text.StartsTooLong item := by
  induction items with
  | nil => simp [readPositions]
  | cons item rest ih =>
    simp only [List.mem_cons, exists_eq_or_imp]
    rw [← ih, ← Text.leadingInteger_fails_iff, readPositions]
    cases Text.leadingInteger item with
    | error error => simp [bind, Except.bind]
    | ok position => cases readPositions rest <;> simp [bind, Except.bind, pure, Except.pure]

/-- Whether a segment holds a numeral that is too long where it is asked for numbers. -/
def Segment.HoldsTooLong (segment : Segment) : Prop :=
  match segment.key with
  | .interval => Text.StartsTooLong segment.value
  | .count => Text.StartsTooLong segment.value
  | .positions => ∃ item ∈ segment.items, Text.StartsTooLong item
  | .frequency | .bound | .weekStart | .weekdays => False

/-- A rule that starts in universal time and ends there, if it ends. -/
structure Rule.IsUniversal (rule : Rule) : Prop where
  start : ∃ civil, rule.start = some (.utc civil)
  bound : ∀ bound, rule.bound = some bound → bound.frame = .utc

namespace Rule

theorem withSegment_interval (rule : Rule) (value : List Char) :
    rule.withSegment ⟨.interval, value⟩ =
      (readInterval value).map fun interval => { rule with interval := some interval } := rfl

theorem withSegment_positions (rule : Rule) (value : List Char) :
    rule.withSegment ⟨.positions, value⟩ =
      (readPositions (Text.fields ',' value)).map fun positions =>
        { rule with bySetPosition := if positions.isEmpty then none else some positions } := rfl

theorem withSegment_count (rule : Rule) (value : List Char) :
    rule.withSegment ⟨.count, value⟩ =
      (readPositive value).map fun count => { rule with count } := rfl

/-- A segment fails on a numeral that is too long and on nothing else, whatever came before it. -/
theorem withSegment_fails_iff (rule : Rule) (segment : Segment) :
    (∃ error, rule.withSegment segment = .error error) ↔ segment.HoldsTooLong := by
  obtain ⟨key, value⟩ := segment
  unfold Segment.HoldsTooLong
  cases key with
  | frequency => simp [withSegment]
  | interval => rw [withSegment_interval, map_fails_iff, readInterval, map_fails_iff,
      readPositive_fails_iff]
  | bound =>
    simp only [withSegment, iff_false]
    split <;> simp
  | weekStart =>
    simp only [withSegment, iff_false]
    split <;> simp
  | weekdays => simp [withSegment]
  | positions =>
    rw [withSegment_positions, map_fails_iff, readPositions_fails_iff]
    rfl
  | count => rw [withSegment_count, map_fails_iff, readPositive_fails_iff]

/-- A segment leaves the start alone, and a bound that it sets is read as universal time. -/
theorem IsUniversal.withSegment {rule next : Rule} {segment : Segment} (huniversal : rule.IsUniversal)
    (hnext : rule.withSegment segment = .ok next) : next.IsUniversal := by
  obtain ⟨key, value⟩ := segment
  obtain ⟨hstart, hbound⟩ := huniversal
  cases key with
  | frequency =>
    cases hnext
    exact ⟨hstart, hbound⟩
  | interval =>
    rw [withSegment_interval] at hnext
    obtain ⟨interval, -, rfl⟩ := map_eq_ok_iff.1 hnext
    exact ⟨hstart, hbound⟩
  | bound =>
    simp only [Rule.withSegment] at hnext
    split at hnext
    · cases hnext
      refine ⟨hstart, fun bound hset => ?_⟩
      cases hset
      rfl
    · cases hnext
      exact ⟨hstart, hbound⟩
  | weekStart =>
    simp only [Rule.withSegment] at hnext
    split at hnext
    · cases hnext
      exact ⟨hstart, hbound⟩
    · cases hnext
      exact ⟨hstart, hbound⟩
  | weekdays =>
    cases hnext
    exact ⟨hstart, hbound⟩
  | positions =>
    rw [withSegment_positions] at hnext
    obtain ⟨positions, -, rfl⟩ := map_eq_ok_iff.1 hnext
    exact ⟨hstart, hbound⟩
  | count =>
    rw [withSegment_count] at hnext
    obtain ⟨count, -, rfl⟩ := map_eq_ok_iff.1 hnext
    exact ⟨hstart, hbound⟩

/-- Whether a text is read as far as its segments, and one of them holds a numeral that is too long. -/
def HoldsTooLong (text : String) : Prop :=
  ∃ declaration body start, StartDeclaration.find? text.toList = some declaration ∧
    ruleBody? text.toList = some body ∧ readCompact declaration.literal .midnight = .ok start ∧
      ∃ segment ∈ Segment.readAll body, segment.HoldsTooLong

theorem ofZonedText_of_declared {text : String} {declaration : StartDeclaration} {body : List Char}
    {start : Civil} (hdeclaration : StartDeclaration.find? text.toList = some declaration)
    (hbody : ruleBody? text.toList = some body)
    (hstart : readCompact declaration.literal .midnight = .ok start) :
    ofZonedText text =
      ((Segment.readAll body).foldlM withSegment (opening declaration.zone start)).map some := by
  unfold ofZonedText
  rw [hdeclaration, hbody]
  simp only [hstart]

theorem holdsTooLong_iff {text : String} {declaration : StartDeclaration} {body : List Char}
    {start : Civil} (hdeclaration : StartDeclaration.find? text.toList = some declaration)
    (hbody : ruleBody? text.toList = some body)
    (hstart : readCompact declaration.literal .midnight = .ok start) :
    HoldsTooLong text ↔ ∃ segment ∈ Segment.readAll body, segment.HoldsTooLong := by
  constructor
  · rintro ⟨_, other, _, -, hother, -, hsegments⟩
    rw [hbody, Option.some.injEq] at hother
    rwa [hother]
  · intro hsegments
    exact ⟨declaration, body, start, hdeclaration, hbody, hstart, hsegments⟩

/-- Zoned text cannot be read exactly if one of its segments holds a numeral that is too long. -/
theorem ofZonedText_fails_iff {text : String} :
    (∃ error, ofZonedText text = .error error) ↔ HoldsTooLong text := by
  constructor
  · rintro ⟨error, herror⟩
    have hread := herror
    unfold ofZonedText at hread
    split at hread
    · next declaration body hdeclaration hbody =>
      split at hread
      · next start hstart =>
        refine ⟨declaration, body, start, hdeclaration, hbody, hstart, ?_⟩
        exact (foldlM_fails_iff withSegment_fails_iff _).1 (map_fails_iff.1 ⟨error, hread⟩)
      · cases hread
    · cases hread
  · rintro ⟨declaration, body, start, hdeclaration, hbody, hstart, hsegments⟩
    rw [ofZonedText_of_declared hdeclaration hbody hstart, map_fails_iff,
      foldlM_fails_iff withSegment_fails_iff]
    exact hsegments

theorem not_holdsTooLong_of_ok {text : String} {found : Option Rule} (hread : ofZonedText text = .ok found) :
    ¬ HoldsTooLong text := by
  intro hlong
  obtain ⟨error, herror⟩ := ofZonedText_fails_iff.2 hlong
  rw [hread] at herror
  cases herror

/-- A rule of zoned text starts in universal time and ends there, if it ends. -/
theorem isUniversal_of_ofZonedText {text : String} {rule : Rule}
    (hread : ofZonedText text = .ok (some rule)) : rule.IsUniversal := by
  unfold ofZonedText at hread
  split at hread
  · next declaration body hdeclaration hbody =>
    split at hread
    · next start hstart =>
      obtain ⟨last, hfold, hlast⟩ := map_eq_ok_iff.1 hread
      cases hlast
      have hopening : (opening declaration.zone start).IsUniversal := by
        refine ⟨⟨start, rfl⟩, fun bound hset => ?_⟩
        cases hset
      exact foldlM_preserves (fun _ _ _ hstate => hstate.withSegment) hopening hfold
    · cases hread
  · cases hread

end Rule

end Recurrence
