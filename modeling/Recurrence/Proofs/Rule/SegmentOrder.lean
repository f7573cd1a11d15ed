import Mathlib.Data.List.Nodup
import Recurrence.Proofs.Rule.Redeclared

namespace Recurrence

theorem eq_of_perm_of_length_le_one {α : Type} {items others : List α} (hperm : items.Perm others)
    (hfew : others.length ≤ 1) : items = others := by
  match others, hfew with
  | [], _ => exact hperm.eq_nil
  | [item], _ => exact List.perm_singleton.1 hperm

namespace Segment

/-- What a part of a body has before its equals sign, without the blanks around it. -/
def keyOf (part : List Char) : List Char := Text.strip (Text.cut '=' part).1

/-- A part with a key that no segment has. -/
def IsUnknown (part : List Char) : Prop :=
  ∀ key : SegmentKey, keyOf part ≠ key.name.toList

/-- What a part gives under a name. -/
def valueUnder (name : String) (part : List Char) : Option (List Char) :=
  if keyOf part = name.toList then some (Text.strip (Text.cut '=' part).2) else none

/-- The body that is made of parts. -/
def bodyOf (parts : List (List Char)) : List Char := [';'].intercalate parts

/-- Parts that can stand between semicolons on one line. -/
structure OnOneLine (parts : List (List Char)) : Prop where
  semicolon_notMem : ∀ part ∈ parts, ';' ∉ part
  newline_notMem : ∀ part ∈ parts, '\n' ∉ part

/-- Parts of which each has a key of its own, and one is not empty. -/
structure DistinctParts (parts : List (List Char)) : Prop extends OnOneLine parts where
  nodup_keys : (parts.map keyOf).Nodup
  exists_ne_nil : ∃ part ∈ parts, part ≠ []

/-- Parts that no reader knows. -/
structure UnknownParts (parts : List (List Char)) : Prop extends OnOneLine parts where
  isUnknown : ∀ part ∈ parts, IsUnknown part

theorem OnOneLine.of_perm {parts inserted others : List (List Char)} (hparts : OnOneLine parts)
    (hinserted : OnOneLine inserted) (hperm : others.Perm (parts ++ inserted)) : OnOneLine others where
  semicolon_notMem part hpart := by
    rcases List.mem_append.1 (hperm.mem_iff.1 hpart) with hpart | hpart
    · exact hparts.semicolon_notMem part hpart
    · exact hinserted.semicolon_notMem part hpart
  newline_notMem part hpart := by
    rcases List.mem_append.1 (hperm.mem_iff.1 hpart) with hpart | hpart
    · exact hparts.newline_notMem part hpart
    · exact hinserted.newline_notMem part hpart

theorem OnOneLine.newline_notMem_bodyOf {parts : List (List Char)} (hparts : OnOneLine parts) :
    '\n' ∉ bodyOf parts := by
  intro hmem
  rcases Text.mem_of_mem_intercalate hmem with hmem | ⟨part, hpart, hmem⟩
  · exact absurd hmem (by decide)
  · exact hparts.newline_notMem part hpart hmem

theorem splitOn_bodyOf {parts : List (List Char)} (hparts : OnOneLine parts) (hne : parts ≠ []) :
    (bodyOf parts).splitOn ';' = parts :=
  List.splitOn_intercalate ';' hparts.semicolon_notMem hne

theorem bodyOf_ne_nil {parts : List (List Char)} (hparts : OnOneLine parts) {part : List Char}
    (hpart : part ∈ parts) (hne : part ≠ []) : bodyOf parts ≠ [] := by
  intro hempty
  have hsplit := splitOn_bodyOf hparts (List.ne_nil_of_mem hpart)
  rw [hempty, List.splitOn_nil] at hsplit
  rw [← hsplit] at hpart
  exact hne (List.mem_singleton.1 hpart)

theorem values_bodyOf {parts : List (List Char)} (hparts : OnOneLine parts) (hne : parts ≠ [])
    (name : String) : values name (bodyOf parts) = parts.filterMap (valueUnder name) := by
  rw [values, splitOn_bodyOf hparts hne]
  rfl

theorem valueUnder_isSome_iff {name : String} {part : List Char} :
    (valueUnder name part).isSome = true ↔ keyOf part = name.toList := by
  unfold valueUnder
  split <;> simp_all

/-- A name has at most one value where every part has a key of its own. -/
theorem length_filterMap_le_one {parts : List (List Char)} (hkeys : (parts.map keyOf).Nodup) (name : String) :
    (parts.filterMap (valueUnder name)).length ≤ 1 := by
  have hcount : (parts.map keyOf).count name.toList ≤ 1 := List.nodup_iff_count_le_one.1 hkeys _
  rw [List.count, List.countP_map] at hcount
  rw [List.length_filterMap_eq_countP]
  refine Nat.le_trans (Nat.le_of_eq (List.countP_congr fun part _ => ?_)) hcount
  rw [valueUnder_isSome_iff]
  simp

theorem filterMap_of_unknown {parts : List (List Char)} (hunknown : ∀ part ∈ parts, IsUnknown part)
    (key : SegmentKey) : parts.filterMap (valueUnder key.name) = [] := by
  rw [List.filterMap_eq_nil_iff]
  intro part hpart
  exact if_neg (hunknown part hpart key)

/-- Bodies that give the same values under each key. -/
def SameValues (body other : List Char) : Prop :=
  ∀ key : SegmentKey, values key.name body = values key.name other

/-- Changing the places of parts and putting unknown ones in between leaves the values of each key. -/
theorem sameValues_of_perm {parts inserted others : List (List Char)} (hparts : DistinctParts parts)
    (hinserted : UnknownParts inserted) (hperm : others.Perm (parts ++ inserted)) :
    SameValues (bodyOf parts) (bodyOf others) := by
  intro key
  obtain ⟨nonempty, hmem, -⟩ := hparts.exists_ne_nil
  have hne : others ≠ [] := List.ne_nil_of_mem (hperm.mem_iff.2 (List.mem_append_left inserted hmem))
  have hothers := hparts.toOnOneLine.of_perm hinserted.toOnOneLine hperm
  rw [values_bodyOf hothers hne, values_bodyOf hparts.toOnOneLine (List.ne_nil_of_mem hmem)]
  have hvalues := hperm.filterMap (valueUnder key.name)
  rw [List.filterMap_append, filterMap_of_unknown hinserted.isUnknown, List.append_nil] at hvalues
  exact (eq_of_perm_of_length_le_one hvalues (length_filterMap_le_one hparts.nodup_keys key.name)).symm

/-- The same values are the same segments. -/
theorem SameValues.mem_readAll_iff {body other : List Char} (hsame : SameValues body other)
    (segment : Segment) : segment ∈ readAll body ↔ segment ∈ readAll other := by
  obtain ⟨key, value⟩ := segment
  rw [← mem_values_iff, hsame key, mem_values_iff]

end Segment

/-- The rule declaration of parts. -/
def declarationOf (parts : List (List Char)) : String :=
  String.ofList ("RRULE:".toList ++ Segment.bodyOf parts)

theorem isPlainBody_declarationOf (parts : List (List Char)) :
    IsPlainBody (declarationOf parts) (Segment.bodyOf parts) :=
  String.toList_ofList

/-- A body that holds a numeral that is too long where a number is asked for. -/
def HoldsLongNumeral (body : List Char) : Prop :=
  ∃ segment ∈ Segment.readAll body, segment.HoldsTooLong

section SameValues

variable {body other : List Char} (hsame : Segment.SameValues body other)

include hsame

theorem holdsLongNumeral_iff_of_sameValues : HoldsLongNumeral body ↔ HoldsLongNumeral other := by
  unfold HoldsLongNumeral
  simp only [hsame.mem_readAll_iff]

theorem isReadable_iff_of_sameValues : IsReadable body ↔ IsReadable other := by
  simp only [isReadable_iff, hsame.mem_readAll_iff]

theorem plainDraft_eq_of_sameValues : Rule.plainDraft body = Rule.plainDraft other :=
  congrArg ({} : PlainDraft).withValues (funext hsame)

/-- Plain texts that give the same values are rules together, and the same rule. -/
theorem ofPlainText_eq_ok_iff_of_sameValues {text more : String} (htext : IsPlainBody text body)
    (hmore : IsPlainBody more other) (rule : Rule) :
    Rule.ofPlainText text = .ok rule ↔ Rule.ofPlainText more = .ok rule := by
  by_cases hreadable : IsReadable body
  · have hother := (isReadable_iff_of_sameValues hsame).1 hreadable
    rw [Rule.ofPlainText_of_isReadable htext hreadable, Rule.ofPlainText_of_isReadable hmore hother,
      plainDraft_eq_of_sameValues hsame]
  · have hother := (isReadable_iff_of_sameValues hsame).not.1 hreadable
    obtain ⟨error, herror, -⟩ := Rule.ofPlainText_of_not_isReadable htext hreadable
    obtain ⟨another, hanother, -⟩ := Rule.ofPlainText_of_not_isReadable hmore hother
    simp [herror, hanother]

end SameValues

namespace PlainReading

theorem rule_ofValue (text : String) :
    (ofValue (.text text)).rule = (Rule.ofPlainText text).toOption := by
  cases hread : Rule.ofPlainText text with
  | ok rule =>
    rw [ofValue_of_ok hread]
    rfl
  | error error =>
    rw [ofValue_of_error hread]
    rfl

theorem valid_ofValue (text : String) :
    (ofValue (.text text)).valid = (ofValue (.text text)).rule.isSome := by
  cases hread : Rule.ofPlainText text with
  | ok rule =>
    rw [ofValue_of_ok hread]
    rfl
  | error error =>
    rw [ofValue_of_error hread]
    rfl

theorem rule_eq_of_sameValues {text more : String} {body other : List Char}
    (htext : IsPlainBody text body) (hmore : IsPlainBody more other)
    (hsame : Segment.SameValues body other) :
    (ofValue (.text text)).rule = (ofValue (.text more)).rule := by
  rw [rule_ofValue, rule_ofValue]
  ext rule
  rw [toOption_eq_some_iff, toOption_eq_some_iff,
    ofPlainText_eq_ok_iff_of_sameValues hsame htext hmore]

end PlainReading

namespace Rule

/-- After a start declaration, parts fail on a numeral that is too long. Otherwise they are a rule that the values
    of each key decide. -/
theorem ofZonedText_declarationOf (line : StartLine) : ∃ start, ∀ parts, Segment.OnOneLine parts →
    (∃ part ∈ parts, part ≠ []) →
      ((∃ error, ofZonedText (line.text ++ "\n" ++ declarationOf parts) = .error error) ↔
        HoldsLongNumeral (Segment.bodyOf parts)) ∧
      (¬ HoldsLongNumeral (Segment.bodyOf parts) →
        ofZonedText (line.text ++ "\n" ++ declarationOf parts) = .ok (some
          ((opening line.declaration.zone start).withValues fun key =>
            Segment.values key.name (Segment.bodyOf parts)))) := by
  obtain ⟨start, hvalid⟩ := line.valid
  rw [← readCompact_literal_eq_ok_iff] at hvalid
  refine ⟨start, fun parts hparts ⟨part, hpart, hne⟩ => ?_⟩
  obtain ⟨found, hdeclaration, hbody, hstart⟩ := line.exists_start (isPlainBody_declarationOf parts)
    (Segment.bodyOf_ne_nil hparts hpart hne) hparts.newline_notMem_bodyOf
  obtain rfl : start = found := Except.ok.inj (hvalid.symm.trans hstart)
  have hlong := holdsTooLong_iff hdeclaration hbody hstart
  refine ⟨ofZonedText_fails_iff.trans hlong, fun hshort => ?_⟩
  exact ofZonedText_eq (hlong.not.2 hshort) hdeclaration hbody hstart

/-- Parts with a key of its own each may change places, and parts with unknown keys may come in between. Zoned
    text is the same rule, unless a numeral is too long, on which it fails in any order; plain text is a rule exactly
    if it was one, and the same. -/
theorem read_of_perm {parts inserted others : List (List Char)} (hparts : Segment.DistinctParts parts)
    (hinserted : Segment.UnknownParts inserted) (hperm : others.Perm (parts ++ inserted)) (line : StartLine) :
    (HoldsLongNumeral (Segment.bodyOf parts) →
      (∃ error, ofZonedText (line.text ++ "\n" ++ declarationOf parts) = .error error) ∧
        ∃ error, ofZonedText (line.text ++ "\n" ++ declarationOf others) = .error error) ∧
    (¬ HoldsLongNumeral (Segment.bodyOf parts) → ∃ rule,
      ofZonedText (line.text ++ "\n" ++ declarationOf parts) = .ok (some rule) ∧
        ofZonedText (line.text ++ "\n" ++ declarationOf others) = .ok (some rule)) ∧
    (PlainReading.ofValue (.text (declarationOf others))).valid =
      (PlainReading.ofValue (.text (declarationOf parts))).valid ∧
    (PlainReading.ofValue (.text (declarationOf others))).rule =
      (PlainReading.ofValue (.text (declarationOf parts))).rule := by
  have hsame := Segment.sameValues_of_perm hparts hinserted hperm
  have hlong := holdsLongNumeral_iff_of_sameValues hsame
  obtain ⟨part, hpart, hne⟩ := hparts.exists_ne_nil
  have hothers := hparts.toOnOneLine.of_perm hinserted.toOnOneLine hperm
  have hmem : part ∈ others := hperm.mem_iff.2 (List.mem_append_left inserted hpart)
  obtain ⟨start, hread⟩ := ofZonedText_declarationOf line
  obtain ⟨hfails, hrule⟩ := hread parts hparts.toOnOneLine ⟨part, hpart, hne⟩
  obtain ⟨hotherFails, hotherRule⟩ := hread others hothers ⟨part, hmem, hne⟩
  have hplain := PlainReading.rule_eq_of_sameValues (isPlainBody_declarationOf parts)
    (isPlainBody_declarationOf others) hsame
  refine ⟨fun hholds => ⟨hfails.2 hholds, hotherFails.2 (hlong.1 hholds)⟩, fun hshort => ?_, ?_, hplain.symm⟩
  · refine ⟨_, hrule hshort, ?_⟩
    rw [hotherRule (hlong.not.1 hshort), funext hsame]
  · rw [PlainReading.valid_ofValue, PlainReading.valid_ofValue, hplain]

/-- Three parts, as they stand first. -/
def fridayParts : List (List Char) :=
  ["FREQ=WEEKLY".toList, "BYDAY=FR".toList, "COUNT=3".toList]

/-- The same parts the other way round, with two between them that no reader knows. -/
def mixedParts : List (List Char) :=
  ["COUNT=3".toList, "freq=DAILY".toList, "BYDAY=FR".toList, [], "FREQ=WEEKLY".toList]

theorem mixedParts_read :
    ∃ rule plain, ofZonedText (utcLine.text ++ "\n" ++ declarationOf fridayParts) = .ok (some rule) ∧
      ofZonedText (utcLine.text ++ "\n" ++ declarationOf mixedParts) = .ok (some rule) ∧
      rule.frequency = .weekly ∧ rule.byWeekday = some [.friday] ∧
      (PlainReading.ofValue (.text (declarationOf fridayParts))).rule = some plain ∧
      (PlainReading.ofValue (.text (declarationOf mixedParts))).rule = some plain ∧
      plain.frequency = .weekly := by
  have hparts : Segment.DistinctParts fridayParts :=
    ⟨⟨by decide +kernel, by decide +kernel⟩, by decide +kernel, by decide +kernel⟩
  have hinserted : Segment.UnknownParts ["freq=DAILY".toList, []] := by
    refine ⟨⟨by decide +kernel, by decide +kernel⟩, ?_⟩
    intro part hpart key
    revert part
    cases key <;> decide +kernel
  have hperm : mixedParts.Perm (fridayParts ++ ["freq=DAILY".toList, []]) := by decide +kernel
  obtain ⟨hlong, hshort, -, hsame⟩ := read_of_perm hparts hinserted hperm utcLine
  have hzoned : ∃ rule, (ofZonedText (utcLine.text ++ "\n" ++ declarationOf fridayParts)).toOption.join =
      some rule ∧ decide (rule.frequency = .weekly ∧ rule.byWeekday = some [.friday]) = true :=
    (Option.any_eq_true _ _).1 (by decide +kernel)
  have hplain : ∃ plain, (PlainReading.ofValue (.text (declarationOf fridayParts))).rule = some plain ∧
      decide (plain.frequency = .weekly) = true :=
    (Option.any_eq_true _ _).1 (by decide +kernel)
  obtain ⟨rule, hrule, hshape⟩ := hzoned
  obtain ⟨plain, hvalid, hweekly⟩ := hplain
  obtain ⟨hfrequency, hweekday⟩ := of_decide_eq_true hshape
  have hread := toOption_eq_some_iff.1 (Option.join_eq_some_iff.1 hrule)
  have hnone : ¬ HoldsLongNumeral (Segment.bodyOf fridayParts) := by
    intro hholds
    obtain ⟨⟨error, herror⟩, -⟩ := hlong hholds
    rw [hread] at herror
    cases herror
  obtain ⟨other, hfirst, hsecond⟩ := hshort hnone
  rw [hread] at hfirst
  cases hfirst
  exact ⟨rule, plain, hread, hsecond, hfrequency, hweekday, hvalid, hsame.trans hvalid,
    of_decide_eq_true hweekly⟩

end Rule

end Recurrence
