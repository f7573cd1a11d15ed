import Mathlib.Algebra.Group.Nat.Defs
import Mathlib.Data.List.Basic
import Recurrence.Proofs.Text.Search

namespace Recurrence.Text

/-- Whether the numeral at the start of a text is too long to be read. -/
def StartsTooLong (text : List Char) : Prop :=
  numeralLimit < ((takeSign (stripLeft text)).2.takeWhile isDigit).length

theorem leadingInteger_fails_iff {text : List Char} :
    (∃ error, leadingInteger text = .error error) ↔ StartsTooLong text := by
  unfold leadingInteger StartsTooLong
  obtain ⟨negative, body⟩ := takeSign (stripLeft text)
  dsimp only
  generalize body.takeWhile isDigit = digits
  cases digits with
  | nil => simp
  | cons digit rest =>
    rw [List.isEmpty_cons]
    split
    · next hempty => cases hempty
    · split
      · next hlong => exact iff_of_true ⟨_, rfl⟩ hlong
      · next hshort => exact iff_of_false (by simp) hshort

/-- The integer at the start of a text, however long it is. -/
def leading? (text : List Char) : Option Int :=
  let (negative, body) := takeSign (stripLeft text)
  let digits := body.takeWhile isDigit
  if digits.isEmpty then none else some (signed negative (ofDigits digits))

theorem leadingInteger_of_not_startsTooLong {text : List Char} (hshort : ¬ StartsTooLong text) :
    leadingInteger text = .ok (leading? text) := by
  unfold StartsTooLong at hshort
  unfold leadingInteger leading?
  dsimp only
  rw [if_neg hshort]
  split <;> rfl

/-- A text that, after blanks, starts with an integer: perhaps a sign, then digits as far as they go. -/
def LeadsWith (text : List Char) (number : Int) : Prop :=
  ∃ blanks sign digits rest, text = blanks ++ (sign ++ (digits ++ rest)) ∧
    (∀ c ∈ blanks, isBlank c = true) ∧ (sign = [] ∨ sign = ['+'] ∨ sign = ['-']) ∧
    digits ≠ [] ∧ (∀ c ∈ digits, isDigit c = true) ∧ (∀ c, rest.head? = some c → isDigit c = false) ∧
    number = if sign = ['-'] then -(ofDigits digits : Int) else ofDigits digits

theorem isBlank_of_isDigit {c : Char} (hdigit : isDigit c = true) : isBlank c = false := by
  have htable : ∀ first ∈ decimalZeros, ∀ value < 10, isBlank (Char.ofNat (first + value)) = false := by
    decide +kernel
  obtain ⟨value, hvalue⟩ := Option.isSome_iff_exists.1 hdigit
  obtain ⟨first, hfirst, -⟩ := Option.map_eq_some_iff.1 hvalue
  have hrange := List.find?_some hfirst
  simp only [Bool.and_eq_true, decide_eq_true_eq] at hrange
  have hblank := htable first (List.mem_of_find?_eq_some hfirst) (c.toNat - first) (by omega)
  rwa [Nat.add_sub_cancel' hrange.1, Char.ofNat_toNat] at hblank

theorem takeSign_append {sign digits : List Char} (hsign : sign = [] ∨ sign = ['+'] ∨ sign = ['-'])
    (hdigits : ∀ c, digits.head? = some c → isDigit c = true) :
    takeSign (sign ++ digits) = (decide (sign = ['-']), digits) := by
  rcases hsign with rfl | rfl | rfl
  · cases digits with
    | nil => rfl
    | cons c rest =>
      have hc := hdigits c rfl
      have hminus : c ≠ '-' := by
        rintro rfl
        revert hc
        decide
      have hplus : c ≠ '+' := by
        rintro rfl
        revert hc
        decide
      unfold takeSign
      split <;> simp_all
  · rfl
  · rfl

theorem exists_sign (text : List Char) :
    ∃ sign, (sign = [] ∨ sign = ['+'] ∨ sign = ['-']) ∧ text = sign ++ (takeSign text).2 ∧
      (takeSign text).1 = decide (sign = ['-']) := by
  unfold takeSign
  split
  · exact ⟨['-'], by simp⟩
  · exact ⟨['+'], by simp⟩
  · exact ⟨[], by simp⟩

theorem leading?_eq_some_iff {text : List Char} {number : Int} :
    leading? text = some number ↔ LeadsWith text number := by
  constructor
  · intro hleading
    obtain ⟨sign, hsign, htext, hnegative⟩ := exists_sign (stripLeft text)
    unfold leading? at hleading
    dsimp only at hleading
    rw [hnegative] at hleading
    generalize (takeSign (stripLeft text)).2 = body at hleading htext
    split at hleading
    · cases hleading
    · next hdigits =>
      refine ⟨text.takeWhile isBlank, sign, body.takeWhile isDigit, body.dropWhile isDigit, ?_,
        List.all_eq_true.1 List.all_takeWhile, hsign, by simpa using hdigits,
        List.all_eq_true.1 List.all_takeWhile, ?_, ?_⟩
      · rw [List.takeWhile_append_dropWhile, ← htext, stripLeft, List.takeWhile_append_dropWhile]
      · intro c hc
        have hnot := List.head?_dropWhile_not isDigit body
        rwa [hc] at hnot
      · rw [← Option.some.inj hleading]
        simp [signed]
  · rintro ⟨blanks, sign, digits, rest, rfl, hblanks, hsign, hne, hdigits, hrest, rfl⟩
    obtain ⟨first, more, rfl⟩ := List.exists_cons_of_ne_nil hne
    have hfirst := hdigits first List.mem_cons_self
    have hstart : ∀ c, (sign ++ (first :: more ++ rest)).head? = some c → isBlank c = false := by
      intro c hc
      rcases hsign with rfl | rfl | rfl
      · cases hc
        exact isBlank_of_isDigit hfirst
      · cases hc
        decide
      · cases hc
        decide
    have hbody : takeSign (sign ++ (first :: more ++ rest)) =
        (decide (sign = ['-']), first :: more ++ rest) := by
      apply takeSign_append hsign
      intro c hc
      cases hc
      exact hfirst
    unfold leading? stripLeft
    rw [(takeWhile_dropWhile_append hblanks hstart).2, hbody]
    dsimp only
    rw [(takeWhile_dropWhile_append hdigits hrest).1]
    simp [signed]

theorem ofDigits_lt (digits : List Char) : ofDigits digits < 10 ^ digits.length := by
  have hstep : ∀ digits : List Char, ∀ start,
      digits.foldl (fun number c => number * 10 + (digitValue? c).getD 0) start <
        (start + 1) * 10 ^ digits.length := by
    intro digits
    induction digits with
    | nil => simp
    | cons c rest ih =>
      intro start
      have hvalue : (digitValue? c).getD 0 < 10 := by
        cases hc : digitValue? c with
        | none => decide
        | some value => exact digitValue?_lt hc
      rw [List.foldl_cons, List.length_cons, Nat.pow_succ']
      calc rest.foldl _ (start * 10 + (digitValue? c).getD 0)
          < (start * 10 + (digitValue? c).getD 0 + 1) * 10 ^ rest.length := ih _
        _ ≤ ((start + 1) * 10) * 10 ^ rest.length := Nat.mul_le_mul_right _ (by omega)
        _ = (start + 1) * (10 * 10 ^ rest.length) := Nat.mul_assoc _ _ _
  have hdigits := hstep digits 0
  rwa [Nat.zero_add, Nat.one_mul] at hdigits

/-- An integer that can be read has no more digits than a text that can be read may have. -/
theorem natAbs_lt_of_leading? {text : List Char} {number : Int} (hshort : ¬ StartsTooLong text)
    (hleading : leading? text = some number) : number.natAbs < 10 ^ numeralLimit := by
  unfold StartsTooLong at hshort
  unfold leading? at hleading
  dsimp only at hleading
  split at hleading
  · cases hleading
  · rw [← Option.some.inj hleading]
    have hdigits := ofDigits_lt ((takeSign (stripLeft text)).2.takeWhile isDigit)
    have hlimit := Nat.pow_le_pow_right (by decide : 0 < 10) (Nat.not_lt.1 hshort)
    unfold signed
    split
    · rw [Int.natAbs_neg, Int.natAbs_natCast]
      exact Nat.lt_of_lt_of_le hdigits hlimit
    · rw [Int.natAbs_natCast]
      exact Nat.lt_of_lt_of_le hdigits hlimit

theorem toNat_of_latin {c : Char} (hc : c.isDigit = true) : 48 ≤ c.toNat ∧ c.toNat < 58 := by
  simp only [Char.isDigit, Bool.and_eq_true, decide_eq_true_eq] at hc
  obtain ⟨hlow, hhigh⟩ := hc
  exact ⟨hlow, Nat.lt_succ_of_le hhigh⟩

theorem digitValue?_of_latin {c : Char} (hc : c.isDigit = true) :
    digitValue? c = some (c.toNat - '0'.toNat) := by
  simp [digitValue?, decimalZeros, toNat_of_latin hc]

theorem latinDigit?_of_latin {c : Char} (hc : c.isDigit = true) :
    latinDigit? c = some (c.toNat - '0'.toNat) :=
  if_pos (toNat_of_latin hc)

theorem isDigit_of_latin {c : Char} (hc : c.isDigit = true) : isDigit c = true := by
  rw [isDigit, digitValue?_of_latin hc, Option.isSome_some]

/-- Latin digits write what they write in the base of ten. -/
theorem ofDigits_of_latin {digits : List Char} (hdigits : ∀ c ∈ digits, c.isDigit = true) :
    ofDigits digits = Nat.ofDigitChars 10 digits 0 := by
  unfold ofDigits Nat.ofDigitChars
  apply List.foldl_ext
  intro number c hc
  rw [digitValue?_of_latin (hdigits c hc), Option.getD_some, Nat.mul_comm]

theorem isDigit_of_mem_toDigits {number : Nat} {c : Char} (hc : c ∈ Nat.toDigits 10 number) :
    c.isDigit = true :=
  Nat.isDigit_of_mem_toDigits (by decide) (by decide) hc

/-- A number that was written is the integer that its text starts with. -/
theorem leadsWith_toDigits (number : Nat) : LeadsWith (Nat.toDigits 10 number) number := by
  have hlatin : ∀ c ∈ Nat.toDigits 10 number, c.isDigit = true := fun c => isDigit_of_mem_toDigits
  refine ⟨[], [], Nat.toDigits 10 number, [], by simp, by simp, Or.inl rfl, Nat.toDigits_ne_nil,
    fun c hc => isDigit_of_latin (hlatin c hc), by simp, ?_⟩
  rw [if_neg (by decide), ofDigits_of_latin hlatin, Nat.ofDigitChars_ten_toDigits]

/-- A number that was written can be read unless it has too many digits. -/
theorem startsTooLong_toDigits_iff {number : Nat} :
    StartsTooLong (Nat.toDigits 10 number) ↔ numeralLimit < (Nat.toDigits 10 number).length := by
  have hdigits : ∀ c ∈ Nat.toDigits 10 number, isDigit c = true :=
    fun c hc => isDigit_of_latin (isDigit_of_mem_toDigits hc)
  have hstrip : stripLeft (Nat.toDigits 10 number) = Nat.toDigits 10 number :=
    dropWhile_of_forall_not fun c hc => isBlank_of_isDigit (hdigits c hc)
  have hsign := takeSign_append (Or.inl rfl) fun c hc => hdigits c (List.mem_of_mem_head? hc)
  rw [List.nil_append] at hsign
  rw [StartsTooLong, hstrip, hsign, List.takeWhile_eq_self_iff.2 hdigits]

end Recurrence.Text
