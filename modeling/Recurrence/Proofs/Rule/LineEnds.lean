import Recurrence.Proofs.Rule.ZonedText
import Recurrence.Proofs.Text.LineEnds

namespace Recurrence

open Text (after? searchFirst withReturns)

/-- A start declaration with a carriage return before each line feed of its zone. -/
def StartDeclaration.withReturns (declaration : StartDeclaration) : StartDeclaration :=
  { declaration with zone := String.ofList (Text.withReturns declaration.zone.toList) }

theorem StartDeclaration.here?_withReturns (text : List Char) :
    here? (Text.withReturns text) = (here? text).map StartDeclaration.withReturns := by
  have hkey : '\r' ∉ "DTSTART;TZID=".toList ∧ '\n' ∉ "DTSTART;TZID=".toList := by decide
  have hcolon : '\r' ∉ ":".toList ∧ '\n' ∉ ":".toList := by decide
  have hmark : '\r' ∉ "T".toList ∧ '\n' ∉ "T".toList := by decide
  simp only [here?, bind, pure, Text.after?_withReturns hkey.1 hkey.2]
  cases after? "DTSTART;TZID=".toList text with
  | none => rfl
  | some rest =>
    obtain ⟨htake, hdrop⟩ := Text.span_withReturns ':' (by decide) (by decide) rest
    simp only [Option.map_some, Option.bind_some, List.span_eq_takeWhile_dropWhile, htake, hdrop,
      Text.withReturns_isEmpty, Text.after?_withReturns hcolon.1 hcolon.2]
    split
    · rfl
    · cases after? ":".toList (rest.dropWhile (· != ':')) with
      | none => rfl
      | some rest =>
        simp only [Option.map_some, Option.bind_some, Text.takeDigits_withReturns]
        rcases Text.takeDigits 8 rest with _ | ⟨date, rest⟩
        · rfl
        · simp only [Option.map_some, Option.bind_some, Prod.map, id, Text.after?_withReturns hmark.1 hmark.2]
          cases after? "T".toList rest with
          | none => rfl
          | some rest =>
            simp only [Option.map_some, Option.bind_some, Text.takeDigits_withReturns]
            rcases Text.takeDigits 6 rest with _ | ⟨time, rest⟩
            · rfl
            · simp [StartDeclaration.withReturns]

theorem StartDeclaration.find?_withReturns (text : List Char) :
    find? (Text.withReturns text) = (find? text).map StartDeclaration.withReturns := by
  rw [find?, Text.searchFirst_withReturns here?_withReturns (fun _ => rfl), Text.searchFirst_map, find?]

/-- What the leftmost start declaration declares stands on one line. -/
def DeclaredOnOneLine (text : List Char) : Prop :=
  ∀ declaration, Text.Leftmost StartDeclaration.Begins text declaration → '\n' ∉ declaration.zone.toList

theorem DeclaredOnOneLine.find?_withReturns {text : List Char} (hline : DeclaredOnOneLine text) :
    StartDeclaration.find? (Text.withReturns text) = StartDeclaration.find? text := by
  rw [StartDeclaration.find?_withReturns]
  cases hfound : StartDeclaration.find? text with
  | none => rfl
  | some declaration =>
    have hzone := hline declaration (StartDeclaration.find?_eq_some_iff.1 hfound)
    rw [Option.map_some, StartDeclaration.withReturns, Text.withReturns_of_notMem hzone, String.ofList_toList]

/-- A text that starts with the keyword of a rule declaration, and with something behind it. -/
def KeywordBegins (text behind : List Char) : Prop :=
  text = "RRULE:".toList ++ behind ∧ behind ≠ []

/-- A text whose leftmost rule declaration with anything behind it is empty: its line ends there. -/
def OpensEmpty (text : List Char) : Prop :=
  ∃ rest, Text.Leftmost KeywordBegins text ('\n' :: rest)

/-- What stands behind the keyword at the start of a text, if anything does. -/
def behindKeyword? (text : List Char) : Option (List Char) :=
  (after? "RRULE:".toList text).filter (!·.isEmpty)

theorem behindKeyword?_eq_some_iff {text behind : List Char} :
    behindKeyword? text = some behind ↔ KeywordBegins text behind := by
  simp [behindKeyword?, KeywordBegins, Option.filter_eq_some_iff, Text.after?_eq_some_iff]

theorem opensEmpty_iff {text : List Char} :
    OpensEmpty text ↔ ∃ rest, searchFirst behindKeyword? text = some ('\n' :: rest) := by
  simp only [OpensEmpty, Text.searchFirst_eq_some_iff fun _ _ => behindKeyword?_eq_some_iff]

/-- The rest of the line behind a keyword, if it is not empty. -/
def restOfLine? (behind : List Char) : Option (List Char) :=
  if (behind.takeWhile (· != '\n')).isEmpty then none else some (behind.takeWhile (· != '\n'))

theorem ruleBodyHere?_eq_bind (text : List Char) :
    ruleBodyHere? text = (behindKeyword? text).bind restOfLine? := by
  simp only [ruleBodyHere?, behindKeyword?, bind, pure]
  cases after? "RRULE:".toList text with
  | none => rfl
  | some behind =>
    cases behind with
    | nil => rfl
    | cons c rest => rfl

theorem ruleBodyHere?_withReturns (text : List Char) :
    ruleBodyHere? (withReturns text) =
      (behindKeyword? text).map fun behind => (withReturns behind).takeWhile (· != '\n') := by
  have hkeyword : '\r' ∉ "RRULE:".toList ∧ '\n' ∉ "RRULE:".toList := by decide
  rw [ruleBodyHere?_eq_bind, behindKeyword?, behindKeyword?, Text.after?_withReturns hkeyword.1 hkeyword.2]
  cases after? "RRULE:".toList text with
  | none => rfl
  | some behind =>
    cases behind with
    | nil => rfl
    | cons c rest =>
      by_cases hc : c = '\n'
      · subst hc
        rfl
      · simp [Option.filter, Text.withReturns_cons hc, restOfLine?, hc]

/-- With carriage returns, whatever stands behind the leftmost keyword gives a body. -/
theorem ruleBody?_withReturns (text : List Char) :
    ruleBody? (withReturns text) =
      (searchFirst behindKeyword? text).map fun behind => (withReturns behind).takeWhile (· != '\n') := by
  rw [ruleBody?, Text.searchFirst_withReturns ruleBodyHere?_withReturns (fun _ => rfl), Text.searchFirst_map]

/-- Without them, it gives one if its line does not end there. -/
theorem ruleBody?_of_not_opensEmpty {text : List Char} (hopens : ¬ OpensEmpty text) :
    ruleBody? text = (searchFirst behindKeyword? text).map fun behind => behind.takeWhile (· != '\n') := by
  rw [opensEmpty_iff] at hopens
  rw [ruleBody?, funext ruleBodyHere?_eq_bind]
  cases hfound : searchFirst behindKeyword? text with
  | none => exact Text.searchFirst_bind_of_none hfound
  | some behind =>
    apply Text.searchFirst_bind_of_some hfound
    cases behind with
    | nil =>
      obtain ⟨_, _, -, hbegins, -⟩ :=
        (Text.searchFirst_eq_some_iff fun _ _ => behindKeyword?_eq_some_iff).1 hfound
      exact absurd rfl hbegins.2
    | cons c rest =>
      have hc : c ≠ '\n' := by
        rintro rfl
        exact hopens ⟨rest, hfound⟩
      simp [restOfLine?, hc]

namespace Segment

theorem read?_append_blank {c : Char} (hblank : Text.isBlank c = true) (hc : c ≠ '=') (part : List Char) :
    read? (part ++ [c]) = read? part := by
  obtain ⟨hkey, hvalue⟩ := Text.strip_cut_append_blank hblank hc part
  simp only [read?, hkey, hvalue]

/-- A blank at the end of a body changes no segment. -/
theorem readAll_append_blank {c : Char} (hblank : Text.isBlank c = true) (hequals : c ≠ '=')
    (hsemicolon : c ≠ ';') (body : List Char) : readAll (body ++ [c]) = readAll body := by
  obtain ⟨front, last, hbody, hmore⟩ := Text.fields_append_of_ne hsemicolon body
  rw [readAll, readAll, hbody, hmore, List.filterMap_append, List.filterMap_append]
  simp only [List.filterMap_cons, read?_append_blank hblank hequals]

theorem readAll_takeWhile_withReturns (behind : List Char) :
    readAll ((withReturns behind).takeWhile (· != '\n')) = readAll (behind.takeWhile (· != '\n')) := by
  rw [Text.takeWhile_withReturns]
  split
  · exact readAll_append_blank (by decide) (by decide) (by decide) _
  · rw [List.append_nil]

end Segment

namespace Rule

/-- Texts with the same start declaration whose bodies have the same segments are the same rule. -/
theorem ofZonedText_eq_of_segments {text other : String}
    (hdeclaration : StartDeclaration.find? other.toList = StartDeclaration.find? text.toList)
    (hbody : (ruleBody? other.toList).map Segment.readAll = (ruleBody? text.toList).map Segment.readAll) :
    ofZonedText other = ofZonedText text := by
  unfold ofZonedText
  rw [hdeclaration]
  cases StartDeclaration.find? text.toList with
  | none => rfl
  | some declaration =>
    cases hother : ruleBody? other.toList with
    | none =>
      rw [hother, Option.map_none, eq_comm, Option.map_eq_none_iff] at hbody
      rw [hbody]
    | some body =>
      rw [hother, Option.map_some, eq_comm, Option.map_eq_some_iff] at hbody
      obtain ⟨plain, hplain, hsegments⟩ := hbody
      rw [hplain]
      simp only [hsegments]

/-- Without a start that is a civil time there is no rule. -/
theorem ofZonedText_of_no_start {text : String}
    (hstart : ∀ declaration start, Text.Leftmost StartDeclaration.Begins text.toList declaration →
      ¬ declaration.IsAt start) : ofZonedText text = .ok none := by
  unfold ofZonedText
  split
  · next declaration body hdeclaration hbody =>
    split
    · next start hread =>
      rw [readCompact_literal_eq_ok_iff] at hread
      exact absurd hread (hstart declaration start (StartDeclaration.find?_eq_some_iff.1 hdeclaration))
    · rfl
  · rfl

/-- A carriage return before each line feed does not change what zoned text gives, unless the leftmost rule
    declaration with anything behind it is empty. That text then gives the rule before its first segment, if its
    start is a civil time. -/
theorem ofZonedText_replaceAll_newline {text : String} (hline : DeclaredOnOneLine text.toList) :
    ((OpensEmpty text.toList → ∀ declaration start,
        Text.Leftmost StartDeclaration.Begins text.toList declaration → ¬ declaration.IsAt start) →
      ofZonedText (Text.replaceAll "\n" "\r\n" text) = ofZonedText text) ∧
    (OpensEmpty text.toList → ∀ declaration start,
      Text.Leftmost StartDeclaration.Begins text.toList declaration → declaration.IsAt start →
        ofZonedText (Text.replaceAll "\n" "\r\n" text) = .ok (some (opening declaration.zone start))) := by
  have htext := Text.toList_replaceAll_newline text
  have hfind := hline.find?_withReturns
  rw [← htext] at hfind
  constructor
  · intro hstart
    by_cases hopens : OpensEmpty text.toList
    · have hnone := hstart hopens
      rw [ofZonedText_of_no_start hnone, ofZonedText_of_no_start]
      simpa only [← StartDeclaration.find?_eq_some_iff, hfind] using hnone
    · apply ofZonedText_eq_of_segments hfind
      rw [htext, ruleBody?_withReturns, ruleBody?_of_not_opensEmpty hopens, Option.map_map, Option.map_map]
      exact congrArg (Option.map · _) (funext Segment.readAll_takeWhile_withReturns)
  · intro hopens declaration start hleftmost hat
    obtain ⟨rest, hfound⟩ := opensEmpty_iff.1 hopens
    have hdeclaration := hfind.trans (StartDeclaration.find?_eq_some_iff.2 hleftmost)
    have hbody : ruleBody? (Text.replaceAll "\n" "\r\n" text).toList = some ['\r'] := by
      rw [htext, ruleBody?_withReturns, hfound]
      rfl
    rw [ofZonedText_of_declared hdeclaration hbody (readCompact_literal_eq_ok_iff.2 hat)]
    rfl

/-- A text with a start and an empty rule declaration. -/
def emptyRuleText : String := "DTSTART;TZID=UTC:20240101T000000\nRRULE:\n"

/-- A text whose empty rule declaration comes after a weekly one with a bare key, before blank lines. -/
def weeklyText : String := "DTSTART;TZID=UTC:20240101T000000\nRRULE:FREQ=WEEKLY;COUNT\nRRULE:\n\n"

/-- With carriage returns the weekly rule stays what it is, and what was no rule becomes a daily one. -/
theorem emptyRuleText_replaceAll :
    (∃ rule, ofZonedText weeklyText = .ok (some rule) ∧
      ofZonedText (Text.replaceAll "\n" "\r\n" weeklyText) = .ok (some rule) ∧ rule.frequency = .weekly) ∧
    ofZonedText emptyRuleText = .ok none ∧
    ∃ rule, ofZonedText (Text.replaceAll "\n" "\r\n" emptyRuleText) = .ok (some rule) ∧
      rule.frequency = .daily := by
  have hline : ∀ {text : List Char}, StartDeclaration.find? text = some ⟨"UTC", "20240101T000000"⟩ →
      DeclaredOnOneLine text := by
    intro text hfind declaration hleftmost
    rw [← StartDeclaration.find?_eq_some_iff, hfind] at hleftmost
    cases hleftmost
    decide
  constructor
  · have hopens : ¬ OpensEmpty weeklyText.toList := by
      have hfirst : (searchFirst behindKeyword? weeklyText.toList).map List.head? = some (some 'F') := by
        decide +kernel
      rw [opensEmpty_iff]
      rintro ⟨rest, hfound⟩
      rw [hfound] at hfirst
      cases hfirst
    have hvalue : ∃ rule, (ofZonedText weeklyText).toOption.join = some rule ∧
        decide (rule.frequency = .weekly) = true :=
      (Option.any_eq_true _ _).1 (by decide +kernel)
    obtain ⟨rule, hrule, hweekly⟩ := hvalue
    have hread := toOption_eq_some_iff.1 (Option.join_eq_some_iff.1 hrule)
    have hsame := (ofZonedText_replaceAll_newline (hline (by decide +kernel))).1 (absurd · hopens)
    exact ⟨rule, hread, hsame.trans hread, of_decide_eq_true hweekly⟩
  · have hfind : StartDeclaration.find? emptyRuleText.toList = some ⟨"UTC", "20240101T000000"⟩ := by
      decide +kernel
    have hbody : ruleBody? emptyRuleText.toList = none := by decide +kernel
    have hopens : OpensEmpty emptyRuleText.toList := opensEmpty_iff.2 ⟨[], by decide +kernel⟩
    obtain ⟨start, hstart⟩ : ∃ start, readCompact "20240101T000000" .midnight = .ok start := by
      simp only [← toOption_eq_some_iff, ← Option.isSome_iff_exists]
      decide +kernel
    have hrule := (ofZonedText_replaceAll_newline (hline hfind)).2 hopens _ start
      (StartDeclaration.find?_eq_some_iff.1 hfind) (readCompact_literal_eq_ok_iff.1 hstart)
    refine ⟨?_, _, hrule, rfl⟩
    unfold ofZonedText
    rw [hfind, hbody]

end Rule

end Recurrence
