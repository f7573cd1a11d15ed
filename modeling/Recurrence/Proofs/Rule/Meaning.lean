import Mathlib.Data.List.Forall2
import Recurrence.Proofs.Rule.Values

namespace Recurrence

/-- A value that is the token of a frequency. -/
def Frequency.Names (value : List Char) (frequency : Frequency) : Prop :=
  value = frequency.token.toList

/-- A value that is the token of a weekday. -/
def Weekday.Names (value : List Char) (day : Weekday) : Prop :=
  value = day.token.toList

theorem Frequency.ofToken?_ofList_eq_some_iff (value : List Char) (frequency : Frequency) :
    ofToken? (String.ofList value) = some frequency ↔ Names value frequency := by
  rw [ofToken?_eq_some_iff, ← String.toList_inj, String.toList_ofList, Names]

theorem Weekday.ofToken?_ofList_eq_some_iff (value : List Char) (day : Weekday) :
    ofToken? (String.ofList value) = some day ↔ Names value day := by
  rw [ofToken?_eq_some_iff, ← String.toList_inj, String.toList_ofList, Names]

/-- The interval that values give: the number of at least one that the last of them starts with, or one if it
    starts with none. -/
def GivesInterval (values : List (List Char)) (interval : Option Positive) : Prop :=
  ∀ number, interval = some number ↔ ∃ value, values.getLast? = some value ∧
    (Text.LeadsWith value number.val ∨ number = .one ∧ ∀ other : Positive, ¬ Text.LeadsWith value other.val)

theorem givesInterval_last (values : List (List Char)) :
    GivesInterval values (values.getLast?.map fun value => (leadingPositive? value).getD .one) := by
  intro number
  simp only [Option.map_eq_some_iff, ← leadingPositive?_eq_some_iff]
  refine exists_congr fun value => and_congr_right fun _ => ?_
  cases leadingPositive? value with
  | none => simp [eq_comm]
  | some leading => simp

/-- The count that values give: the number of at least one that the last of them starts with. -/
def GivesCount (values : List (List Char)) (count : Option Positive) : Prop :=
  ∀ number, count = some number ↔
    ∃ value, values.getLast? = some value ∧ Text.LeadsWith value number.val

theorem givesCount_last (values : List (List Char)) :
    GivesCount values (values.getLast?.bind leadingPositive?) := by
  intro number
  simp only [Option.bind_eq_some_iff, leadingPositive?_eq_some_iff]

/-- The weekday of an item of a list; what names none counts as Monday. -/
def Weekday.CountsFor (item : List Char) (day : Weekday) : Prop :=
  Names (Text.strip item) day ∨ day = .monday ∧ ∀ other, ¬ Names (Text.strip item) other

theorem Weekday.countsFor_readWeekdays (items : List (List Char)) :
    List.Forall₂ Weekday.CountsFor items (readWeekdays items) := by
  unfold readWeekdays
  rw [List.forall₂_map_right_iff, List.forall₂_same]
  intro item _
  unfold CountsFor
  simp only [← ofToken?_ofList_eq_some_iff]
  cases ofToken? (String.ofList (Text.strip item)) with
  | none => simp
  | some day => simp

/-- The weekdays that values give: one for each item of the last of them. -/
def GivesWeekdays (values : List (List Char)) (found : Option (List Weekday)) : Prop :=
  match values.getLast? with
  | none => found = none
  | some value => ∃ days, found = some days ∧ List.Forall₂ Weekday.CountsFor (value.splitOn ',') days

theorem givesWeekdays_last (values : List (List Char)) :
    GivesWeekdays values (values.getLast?.map fun value => readWeekdays (Text.fields ',' value)) := by
  unfold GivesWeekdays
  simp only [Text.fields_eq_splitOn]
  cases values.getLast? with
  | none => rfl
  | some value => exact ⟨_, rfl, Weekday.countsFor_readWeekdays _⟩

/-- The integers that the items of a list start with; items that start with none are left out. -/
inductive LeadingIntegers : (items : List (List Char)) → (numbers : List Int) → Prop where
  | nil : LeadingIntegers [] []
  | number {item : List Char} {rest : List (List Char)} {number : Int} {numbers : List Int}
      (hitem : Text.LeadsWith item number) (hrest : LeadingIntegers rest numbers) :
      LeadingIntegers (item :: rest) (number :: numbers)
  | skip {item : List Char} {rest : List (List Char)} {numbers : List Int}
      (hitem : ∀ number, ¬ Text.LeadsWith item number) (hrest : LeadingIntegers rest numbers) :
      LeadingIntegers (item :: rest) numbers

theorem leadingIntegers_filterMap (items : List (List Char)) :
    LeadingIntegers items (items.filterMap Text.leading?) := by
  induction items with
  | nil => exact .nil
  | cons item rest ih =>
    rw [List.filterMap_cons]
    cases hitem : Text.leading? item with
    | none =>
      apply LeadingIntegers.skip _ ih
      intro number hnumber
      rw [← Text.leading?_eq_some_iff, hitem] at hnumber
      cases hnumber
    | some number => exact .number (Text.leading?_eq_some_iff.1 hitem) ih

/-- The positions that values give: the integers of the items of the last of them, unset if there are none. -/
def GivesPositions (values : List (List Char)) (found : Option (List Int)) : Prop :=
  match values.getLast? with
  | none => found = none
  | some value => ∃ positions, LeadingIntegers (value.splitOn ',') positions ∧
      found = if positions = [] then none else some positions

/-- The integers that the items of a value start with, if there are any. -/
def leadingPositions? (value : List Char) : Option (List Int) :=
  let positions := (Text.fields ',' value).filterMap Text.leading?
  if positions.isEmpty then none else some positions

theorem givesPositions_last (values : List (List Char)) :
    GivesPositions values (values.getLast?.bind leadingPositions?) := by
  unfold GivesPositions
  cases values.getLast? with
  | none => rfl
  | some value =>
    refine ⟨_, leadingIntegers_filterMap _, ?_⟩
    simp [leadingPositions?, Text.fields_eq_splitOn]

end Recurrence
