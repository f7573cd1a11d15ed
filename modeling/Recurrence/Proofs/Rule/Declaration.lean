import Mathlib.Data.List.TakeDrop
import Recurrence.Proofs.Text.Search
import Recurrence.Rule.Zoned

namespace Recurrence

/-- A text that starts with a start declaration: a zone without colons that is not empty, eight digits of a
    date and six of a time of day. -/
def StartDeclaration.Begins (text : List Char) (declaration : StartDeclaration) : Prop :=
  ∃ zone date time rest,
    text = "DTSTART;TZID=".toList ++ (zone ++ ':' :: (date ++ 'T' :: (time ++ rest))) ∧
    zone ≠ [] ∧ ':' ∉ zone ∧ date.length = 8 ∧ (∀ c ∈ date, Text.isDigit c = true) ∧
    time.length = 6 ∧ (∀ c ∈ time, Text.isDigit c = true) ∧
    declaration = ⟨String.ofList zone, String.ofList (date ++ 'T' :: time)⟩

theorem StartDeclaration.here?_eq_some_iff {text : List Char} {declaration : StartDeclaration} :
    here? text = some declaration ↔ Begins text declaration := by
  unfold here? Begins
  simp only [bind, Option.bind_eq_some_iff, Text.after?_eq_some_iff]
  constructor
  · rintro ⟨afterKey, rfl, hzone⟩
    rw [List.span_eq_takeWhile_dropWhile] at hzone
    dsimp only at hzone
    split at hzone
    · cases hzone
    · next hne =>
      simp only [Option.bind_eq_some_iff, Text.after?_eq_some_iff, Prod.exists,
        Text.takeDigits_eq_some_iff] at hzone
      obtain ⟨afterZone, hcolon, date, afterDate, ⟨rfl, hdateLength, hdate⟩, afterMark, rfl, time, rest,
        ⟨rfl, htimeLength, htime⟩, hsame⟩ := hzone
      refine ⟨afterKey.takeWhile (· != ':'), date, time, rest, ?_, by simpa using hne, ?_, hdateLength,
        hdate, htimeLength, htime, (Option.some.inj hsame).symm⟩
      · have hcut := List.takeWhile_append_dropWhile (p := (· != ':')) (l := afterKey)
        rw [hcolon] at hcut
        exact congrArg (_ ++ ·) hcut.symm
      · intro hmem
        have hpass := List.all_eq_true.1 List.all_takeWhile _ hmem
        simp at hpass
  · rintro ⟨zone, date, time, rest, rfl, hne, hcolon, hdateLength, hdate, htimeLength, htime, rfl⟩
    have hstop : ∀ c, (':' :: (date ++ 'T' :: (time ++ rest))).head? = some c → (c != ':') = false := by
      intro c hc
      cases hc
      rfl
    obtain ⟨htake, hdrop⟩ := Text.takeWhile_dropWhile_append (Text.bne_of_notMem hcolon) hstop
    refine ⟨_, rfl, ?_⟩
    rw [List.span_eq_takeWhile_dropWhile, htake, hdrop]
    dsimp only
    rw [if_neg (by simpa using hne)]
    simp only [Option.bind_eq_some_iff, Text.after?_eq_some_iff, Prod.exists,
      Text.takeDigits_eq_some_iff]
    exact ⟨_, rfl, date, _, ⟨rfl, hdateLength, hdate⟩, _, rfl, time, rest, ⟨rfl, htimeLength, htime⟩, rfl⟩

theorem StartDeclaration.find?_eq_some_iff {text : List Char} {declaration : StartDeclaration} :
    find? text = some declaration ↔ Text.Leftmost Begins text declaration :=
  Text.searchFirst_eq_some_iff fun _ _ => here?_eq_some_iff

/-- A text that starts with a rule declaration: its body is the rest of the line, and not empty. -/
def RuleBodyBegins (text body : List Char) : Prop :=
  ∃ rest, text = "RRULE:".toList ++ (body ++ rest) ∧ body ≠ [] ∧ '\n' ∉ body ∧
    ∀ c, rest.head? = some c → c = '\n'

theorem ruleBodyHere?_eq_some_iff {text body : List Char} :
    ruleBodyHere? text = some body ↔ RuleBodyBegins text body := by
  unfold ruleBodyHere? RuleBodyBegins
  simp only [bind, Option.bind_eq_some_iff, Text.after?_eq_some_iff]
  constructor
  · rintro ⟨line, rfl, hbody⟩
    split at hbody
    · cases hbody
    · next hne =>
      cases hbody
      refine ⟨line.dropWhile (· != '\n'), ?_, by simpa using hne, ?_, ?_⟩
      · rw [List.takeWhile_append_dropWhile]
      · intro hmem
        have hpass := List.all_eq_true.1 List.all_takeWhile _ hmem
        simp at hpass
      · intro c hc
        have hstop := List.head?_dropWhile_not (· != '\n') line
        rw [hc] at hstop
        simpa using hstop
  · rintro ⟨rest, rfl, hne, hline, hrest⟩
    have hstop : ∀ c, rest.head? = some c → (c != '\n') = false := by
      intro c hc
      rw [hrest c hc]
      rfl
    refine ⟨body ++ rest, rfl, ?_⟩
    rw [(Text.takeWhile_dropWhile_append (Text.bne_of_notMem hline) hstop).1, if_neg (by simpa using hne)]
    rfl

theorem ruleBody?_eq_some_iff {text body : List Char} :
    ruleBody? text = some body ↔ Text.Leftmost RuleBodyBegins text body :=
  Text.searchFirst_eq_some_iff fun _ _ => ruleBodyHere?_eq_some_iff

end Recurrence
