import Mathlib.Data.List.Basic
import Recurrence.Moment.Text
import Recurrence.Proofs.Calendar.MonthDays

namespace Recurrence

namespace Text

theorem toList_padded (width number : Nat) :
    (padded width number).toList =
      List.replicate (width - (Nat.toDigits 10 number).length) '0' ++ Nat.toDigits 10 number := by
  simp only [padded, Nat.toString_eq_ofList_toDigits, String.length_ofList, String.toList_append,
    String.toList_ofList]

/-- Padding fills a width that the digits do not exceed. -/
theorem length_padded {width number : Nat} (hfits : (Nat.toDigits 10 number).length ≤ width) :
    (padded width number).toList.length = width := by
  rw [toList_padded, List.length_append, List.length_replicate]
  omega

theorem ofDigitChars_padded (width number : Nat) :
    Nat.ofDigitChars 10 (padded width number).toList 0 = number := by
  rw [toList_padded, Nat.ofDigitChars_append, Nat.ofDigitChars_replicate_zero, Nat.mul_zero,
    Nat.ofDigitChars_ten_toDigits]

theorem padded_injective {width a b : Nat} (hsame : padded width a = padded width b) : a = b := by
  rw [← ofDigitChars_padded width a, hsame, ofDigitChars_padded]

/-- Two padded numbers of one width at the start of a text are the same, and so is what follows them. -/
theorem padded_append_inj {width a b : Nat} (ha : (Nat.toDigits 10 a).length ≤ width)
    (hb : (Nat.toDigits 10 b).length ≤ width) {more other : String}
    (hsame : padded width a ++ more = padded width b ++ other) : a = b ∧ more = other := by
  have hlists := congrArg String.toList hsame
  rw [String.toList_append, String.toList_append] at hlists
  obtain ⟨hnumber, hmore⟩ :=
    List.append_inj hlists ((length_padded ha).trans (length_padded hb).symm)
  exact ⟨padded_injective (String.toList_inj.1 hnumber), String.toList_inj.1 hmore⟩

end Text

namespace Date

theorem length_toDigits_fields (date : Date) :
    (Nat.toDigits 10 date.year).length ≤ 4 ∧ (Nat.toDigits 10 date.month).length ≤ 2 ∧
      (Nat.toDigits 10 date.day).length ≤ 2 := by
  have hyear := date.year_le
  have hmonth := date.month_le
  have hday := date.day_le_monthLength
  have hlength := monthLength_le date.monthIndex
  rw [Nat.length_toDigits_le_iff (by decide) (by decide),
    Nat.length_toDigits_le_iff (by decide) (by decide),
    Nat.length_toDigits_le_iff (by decide) (by decide)]
  omega

/-- A date at the start of a text can be read off it. -/
theorem iso_append_inj {a b : Date} {more other : String} (hsame : a.iso ++ more = b.iso ++ other) :
    a = b := by
  obtain ⟨hyearA, hmonthA, hdayA⟩ := a.length_toDigits_fields
  obtain ⟨hyearB, hmonthB, hdayB⟩ := b.length_toDigits_fields
  simp only [iso, String.append_assoc] at hsame
  obtain ⟨hyear, hsame⟩ := Text.padded_append_inj hyearA hyearB hsame
  obtain ⟨hmonth, hsame⟩ :=
    Text.padded_append_inj hmonthA hmonthB ((String.append_right_inj _).1 hsame)
  obtain ⟨hday, -⟩ :=
    Text.padded_append_inj hdayA hdayB ((String.append_right_inj _).1 hsame)
  exact ext_of_monthIndex (monthIndex_eq_iff.2 ⟨hyear, hmonth⟩) hday

end Date

namespace Moment

theorem date_of_render {a b : Moment} (hsame : a.render = b.render) : a.civil.date = b.civil.date := by
  simp only [render, String.append_assoc] at hsame
  exact Date.iso_append_inj hsame

end Moment

end Recurrence
