import Recurrence.Proofs.Rule.PlainText
import Recurrence.Proofs.Rule.Redeclared

namespace Recurrence

/-- What is written in full without a zero in its time of day is the same instant as a compact literal. -/
theorem IsFullLiteral.readCompact_of_readInstant {text : String} {fields : CompactFields}
    (hliteral : IsFullLiteral text.toList fields) (hhour : fields.hour ≠ 0) (hminute : fields.minute ≠ 0)
    (hsecond : fields.second ≠ 0) {civil : Civil} (hinstant : readInstant text = .ok civil) :
    readCompact text .endOfDay = .ok civil := by
  have hearly : fields.hour ≠ 24 := by
    intro hlate
    have hread := hliteral.readMoment
    rw [if_pos ⟨hlate, Or.inl hminute⟩] at hread
    unfold readInstant at hinstant
    rw [hread] at hinstant
    cases hinstant
  rw [hliteral.readInstant_eq_ok_iff hearly, Civil.ofFields_eq_ok_iff, Date.ofFields_eq_ok_iff,
    TimeOfDay.ofFields_eq_ok_iff] at hinstant
  obtain ⟨⟨hyear, hmonth, hday⟩, hhours, hminutes, hseconds, hmicro⟩ := hinstant
  refine readCompact_eq_ok_iff.2 ⟨fields, hliteral.begins, hyear, hmonth, hday, ?_, ?_, ?_, hmicro⟩
  · rw [if_neg hhour, hhours]
  · rw [if_neg hminute, hminutes]
  · rw [if_neg hsecond, hseconds]

/-- A body whose positions hold a numeral that is too long. -/
def HoldsLongPosition (body : List Char) : Prop :=
  ∃ value ∈ Segment.values "BYSETPOS" body, ∃ item ∈ value.splitOn ',', Text.StartsTooLong item

/-- Where plain text is read, only its positions can hold such a numeral. -/
theorem IsReadable.holdsTooLong_iff {body : List Char} (hreadable : IsReadable body) :
    (∃ segment ∈ Segment.readAll body, segment.HoldsTooLong) ↔ HoldsLongPosition body := by
  constructor
  · rintro ⟨⟨key, value⟩, hsegment, hlong⟩
    have hvalue := Segment.mem_values_iff.2 hsegment
    cases key with
    | interval => exact absurd hlong (hreadable.intervals value hvalue)
    | count => exact absurd hlong (hreadable.counts value hvalue)
    | positions =>
      obtain ⟨item, hitem, hitemLong⟩ := hlong
      rw [Segment.items, Text.fields_eq_splitOn] at hitem
      exact ⟨value, hvalue, item, hitem, hitemLong⟩
    | frequency => exact hlong.elim
    | bound => exact hlong.elim
    | weekStart => exact hlong.elim
    | weekdays => exact hlong.elim
  · rintro ⟨value, hvalue, item, hitem, hlong⟩
    refine ⟨⟨.positions, value⟩, (@Segment.mem_values_iff .positions body value).1 hvalue, item, ?_, hlong⟩
    rwa [Segment.items, Text.fields_eq_splitOn]

theorem NamesFrequency.ne_nil {body : List Char} (hnames : NamesFrequency body) : body ≠ [] := by
  rintro rfl
  obtain ⟨value, hvalue, -⟩ := hnames
  have hnone : Segment.values "FREQ" [] = [] := by decide +kernel
  rw [hnone] at hvalue
  cases hvalue

/-- A body whose bounds are all literals in full without a zero in their time of day. -/
def HasFullBounds (body : List Char) : Prop :=
  ∀ value ∈ Segment.values "UNTIL" body,
    ∃ fields, IsFullLiteral value fields ∧ fields.hour ≠ 0 ∧ fields.minute ≠ 0 ∧ fields.second ≠ 0

/-- Such bounds are the same instants for both readers. -/
theorem IsReadable.exists_instant {body value : List Char} (hreadable : IsReadable body)
    (hfull : HasFullBounds body) (hvalue : value ∈ Segment.values "UNTIL" body) :
    ∃ instant, readInstant (String.ofList value) = .ok instant ∧
      readCompact (String.ofList value) .endOfDay = .ok instant := by
  obtain ⟨instant, hinstant⟩ := hreadable.bounds value hvalue
  obtain ⟨fields, hliteral, hhour, hminute, hsecond⟩ := hfull value hvalue
  rw [← String.toList_ofList (l := value)] at hliteral
  exact ⟨instant, hinstant, hliteral.readCompact_of_readInstant hhour hminute hsecond hinstant⟩

namespace Rule

/-- What zoned text and plain text with one body have in common. -/
structure AgreesWith (zoned plain : Rule) (body : List Char) : Prop where
  frequency : zoned.frequency = plain.frequency
  interval : zoned.interval = plain.interval
  count : zoned.count = plain.count
  bound : HasFullBounds body → zoned.bound = plain.bound

theorem bound_withValues {body : List Char} (hreadable : IsReadable body) (hfull : HasFullBounds body)
    (zone : String) (start : Civil) :
    ((opening zone start).withValues fun key => Segment.values key.name body).bound =
      (plainDraft body).bound.map .utc := by
  change ((Segment.values "UNTIL" body).filterMap _).getLast?.or none =
    ((Option.map _ (Segment.values "UNTIL" body).getLast?).getD none).map Moment.utc
  rw [Option.or_none, getD_map_none]
  cases hlast : (Segment.values "UNTIL" body).getLast? with
  | none =>
    rw [List.getLast?_eq_none_iff.1 hlast]
    rfl
  | some value =>
    -- Zoned text keeps the last bound that it understands, plain text the last one: that one is understood here.
    obtain ⟨instant, hinstant, hcompact⟩ := hreadable.exists_instant hfull (List.mem_of_getLast? hlast)
    obtain ⟨earlier, hvalues⟩ := List.getLast?_eq_some_iff.1 hlast
    rw [hvalues, List.filterMap_append]
    simp [hinstant, hcompact, Except.toOption]

theorem agreesWith_withValues {body : List Char} {plain : Rule} (hreadable : IsReadable body)
    (hfinish : (plainDraft body).finish = .ok plain) (zone : String) (start : Civil) :
    ((opening zone start).withValues fun key => Segment.values key.name body).AgreesWith plain body := by
  unfold PlainDraft.finish at hfinish
  split at hfinish
  · next frequency hfrequency =>
    cases hfinish
    refine ⟨?_, rfl, rfl, fun hfull => bound_withValues hreadable hfull zone start⟩
    change Option.or _ none = _ at hfrequency
    rw [Option.or_none] at hfrequency
    change Option.getD _ _ = _
    rw [hfrequency]
    rfl
  · cases hfinish

end Rule

theorem PlainReading.exists_of_valid {text : String} (hvalid : (ofValue (.text text)).valid = true) :
    ∃ plain body, (ofValue (.text text)).rule = some plain ∧ IsPlainBody text body ∧ NamesFrequency body ∧
      IsReadable body ∧ (Rule.plainDraft body).finish = .ok plain := by
  obtain ⟨body, hbody, hnames, hreadable⟩ := (ofValue_reports text).valid_iff.1 hvalid
  obtain ⟨frequency, hfrequency⟩ := Rule.namesFrequency_iff.1 hnames
  obtain ⟨plain, hfinish, -⟩ := Rule.finish_plainDraft hfrequency
  have hread := Rule.ofPlainText_of_isReadable hbody hreadable
  rw [hfinish] at hread
  refine ⟨plain, body, ?_, hbody, hnames, hreadable, hfinish⟩
  rw [ofValue_of_ok hread]

/-- Plain text that is a rule agrees with zoned text of the same body, on a line after any start declaration. Zoned
    text is not read exactly if its positions hold a numeral that is too long. -/
theorem PlainReading.ofZonedText_agrees {text : String} (hline : '\n' ∉ text.toList)
    (hvalid : (ofValue (.text text)).valid = true) (line : StartLine) :
    ∃ plain body, (ofValue (.text text)).rule = some plain ∧ IsPlainBody text body ∧
      ((∃ error, Rule.ofZonedText (line.text ++ "\n" ++ text) = .error error) ↔ HoldsLongPosition body) ∧
      (¬ HoldsLongPosition body → ∃ zoned, Rule.ofZonedText (line.text ++ "\n" ++ text) = .ok (some zoned) ∧
        zoned.AgreesWith plain body) := by
  obtain ⟨plain, body, hplain, hbody, hnames, hreadable, hfinish⟩ := exists_of_valid hvalid
  have hbodyLine : '\n' ∉ body := by
    intro hmem
    rw [hbody] at hline
    exact hline (List.mem_append_right _ hmem)
  obtain ⟨start, hdeclaration, hfound, hstart⟩ := line.exists_start hbody hnames.ne_nil hbodyLine
  have hlong : Rule.HoldsTooLong (line.text ++ "\n" ++ text) ↔ HoldsLongPosition body := by
    rw [Rule.holdsTooLong_iff hdeclaration hfound hstart, hreadable.holdsTooLong_iff]
  refine ⟨plain, body, hplain, hbody, Rule.ofZonedText_fails_iff.trans hlong, fun hshort => ?_⟩
  exact ⟨_, Rule.ofZonedText_eq (hlong.not.2 hshort) hdeclaration hfound hstart,
    Rule.agreesWith_withValues hreadable hfinish _ start⟩

/-- A bound, and a position that plain text does not look at. -/
def boundAndPosition (position : Nat) : List Segment :=
  [⟨.frequency, "DAILY".toList⟩, ⟨.bound, "20250630T235959Z".toList⟩, ⟨.positions, Nat.toDigits 10 position⟩]

def positionedBody (position : Nat) : List Char :=
  [';'].intercalate ((boundAndPosition position).map Segment.written)

def positionedText (position : Nat) : String :=
  String.ofList ("RRULE:".toList ++ positionedBody position)

theorem boundAndPosition_isPlain {position : Nat} : ∀ segment ∈ boundAndPosition position, segment.IsPlain := by
  have hplain : ∀ value ∈ ["DAILY".toList, "20250630T235959Z".toList],
      (value.all fun c => !Text.isBlank c && c != ';') = true := by decide +kernel
  intro segment hsegment c hc
  simp only [boundAndPosition, List.mem_cons, List.not_mem_nil, or_false] at hsegment
  rcases hsegment with rfl | rfl | rfl
  · simpa using List.all_eq_true.1 (hplain _ (by simp)) c hc
  · simpa using List.all_eq_true.1 (hplain _ (by simp)) c hc
  · exact Segment.plain_of_latin (Text.isDigit_of_mem_toDigits hc)

theorem readAll_positionedBody (position : Nat) :
    Segment.readAll (positionedBody position) = boundAndPosition position :=
  Segment.readAll_written (List.cons_ne_nil _ _) boundAndPosition_isPlain

theorem isPlainBody_positionedText (position : Nat) :
    IsPlainBody (positionedText position) (positionedBody position) :=
  String.toList_ofList

theorem newline_notMem_positionedText (position : Nat) : '\n' ∉ (positionedText position).toList := by
  rw [isPlainBody_positionedText]
  intro hmem
  rcases List.mem_append.1 hmem with hmem | hmem
  · exact absurd hmem (by decide +kernel)
  · exact absurd hmem (Segment.newline_notMem_intercalate boundAndPosition_isPlain)

theorem values_positionedBody (key : SegmentKey) (position : Nat) :
    Segment.values key.name (positionedBody position) = Segment.valuesOf key (boundAndPosition position) :=
  Segment.values_written (List.cons_ne_nil _ _) boundAndPosition_isPlain key

theorem isFullLiteral_lastSecond :
    IsFullLiteral "20250630T235959Z".toList ⟨2025, 6, 30, 23, 59, 59⟩ :=
  ⟨['2', '0', '2', '5'], ['0', '6'], ['3', '0'], ['2', '3'], ['5', '9'], ['5', '9'], by
    refine ⟨?_, ?_, ?_, ?_, ?_, ?_, rfl⟩ <;> exact ⟨rfl, List.all_eq_true.1 rfl, rfl⟩⟩

theorem hasFullBounds_positionedBody (position : Nat) : HasFullBounds (positionedBody position) := by
  intro value hvalue
  rw [show "UNTIL" = SegmentKey.bound.name from rfl, values_positionedBody] at hvalue
  rw [List.mem_singleton.1 hvalue]
  exact ⟨_, isFullLiteral_lastSecond, by decide, by decide, by decide⟩

theorem isReadable_positionedBody (position : Nat) : IsReadable (positionedBody position) := by
  obtain ⟨instant, hinstant⟩ : ∃ instant, Civil.ofFields 2025 6 30 23 59 59 0 = .ok instant := ⟨_, rfl⟩
  rw [← isFullLiteral_lastSecond.readInstant_eq_ok_iff (by decide)] at hinstant
  rw [isReadable_iff, readAll_positionedBody]
  intro segment hsegment hfails
  simp only [boundAndPosition, List.mem_cons, List.not_mem_nil, or_false] at hsegment
  rcases hsegment with rfl | rfl | rfl
  · exact hfails
  · obtain ⟨error, herror⟩ := hfails
    rw [Segment.text, String.ofList_toList, hinstant] at herror
    cases herror
  · exact hfails

theorem valid_positionedText (position : Nat) :
    (PlainReading.ofValue (.text (positionedText position))).valid = true := by
  refine (PlainReading.ofValue_reports _).valid_iff.2
    ⟨_, isPlainBody_positionedText position, ⟨"DAILY".toList, ?_, .daily, rfl⟩, isReadable_positionedBody position⟩
  rw [show "FREQ" = SegmentKey.frequency.name from rfl, values_positionedBody]
  exact List.mem_singleton_self _

/-- A position with more than 4300 digits is too long. -/
theorem holdsLongPosition_positionedBody (position : Nat) :
    HoldsLongPosition (positionedBody position) ↔ 10 ^ Text.numeralLimit ≤ position := by
  have hvalues : Segment.values "BYSETPOS" (positionedBody position) = [Nat.toDigits 10 position] :=
    values_positionedBody .positions position
  have hitems : (Nat.toDigits 10 position).splitOn ',' = [Nat.toDigits 10 position] := by
    apply List.splitOn_eq_singleton
    intro hcomma
    cases Text.isDigit_of_mem_toDigits hcomma
  unfold HoldsLongPosition
  simp only [hvalues, List.mem_singleton, exists_eq_left, hitems]
  rw [Text.startsTooLong_toDigits_iff, ← Nat.not_le, Nat.length_toDigits_le_iff (by decide) (by decide),
    Nat.not_lt]

/-- With the first position both readers give one rule. With a position that is too long the same plain text is a
    rule still, and zoned text fails. -/
theorem positionedText_agrees :
    (∃ plain zoned, (PlainReading.ofValue (.text (positionedText 1))).rule = some plain ∧
      Rule.ofZonedText (Rule.utcLine.text ++ "\n" ++ positionedText 1) = .ok (some zoned) ∧
      zoned.frequency = plain.frequency ∧ zoned.interval = plain.interval ∧ zoned.count = plain.count ∧
      zoned.bound = plain.bound) ∧
    (PlainReading.ofValue (.text (positionedText (10 ^ Text.numeralLimit)))).valid = true ∧
      ∃ error, Rule.ofZonedText (Rule.utcLine.text ++ "\n" ++ positionedText (10 ^ Text.numeralLimit)) =
        .error error := by
  refine ⟨?_, valid_positionedText _, ?_⟩
  · obtain ⟨plain, body, hplain, hbody, -, hagrees⟩ :=
      PlainReading.ofZonedText_agrees (newline_notMem_positionedText 1) (valid_positionedText 1) Rule.utcLine
    obtain rfl := List.append_cancel_left ((isPlainBody_positionedText 1).symm.trans hbody)
    have hshort : ¬ HoldsLongPosition (positionedBody 1) := by
      rw [holdsLongPosition_positionedBody, Nat.not_le]
      exact Nat.one_lt_pow (by decide) (by decide)
    obtain ⟨zoned, hzoned, hfrequency, hinterval, hcount, hbound⟩ := hagrees hshort
    exact ⟨plain, zoned, hplain, hzoned, hfrequency, hinterval, hcount,
      hbound (hasFullBounds_positionedBody 1)⟩
  · obtain ⟨_, body, -, hbody, hfails, -⟩ :=
      PlainReading.ofZonedText_agrees (newline_notMem_positionedText _) (valid_positionedText _) Rule.utcLine
    obtain rfl := List.append_cancel_left ((isPlainBody_positionedText _).symm.trans hbody)
    exact hfails.2 ((holdsLongPosition_positionedBody _).2 (Nat.le_refl _))

end Recurrence
