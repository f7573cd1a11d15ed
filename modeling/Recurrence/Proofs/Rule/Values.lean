import Recurrence.Proofs.Text.Integer
import Recurrence.Proofs.Text.Search
import Recurrence.Rule.Segment

namespace Recurrence

/-- What the last item of a list means that means anything; nothing if none does. -/
inductive LastMeaning {α β : Type} (Means : α → β → Prop) (items : List α) : Option β → Prop where
  | none (hnone : ∀ item ∈ items, ∀ value, ¬ Means item value) : LastMeaning Means items none
  | some {before after : List α} {item : α} {value : β} (hitems : items = before ++ item :: after)
      (hmeans : Means item value) (hafter : ∀ later ∈ after, ∀ other, ¬ Means later other) :
      LastMeaning Means items (some value)

theorem lastMeaning_filterMap {α β : Type} {Means : α → β → Prop} {read : α → Option β}
    (hread : ∀ item value, read item = some value ↔ Means item value) (items : List α) :
    LastMeaning Means items (items.filterMap read).getLast? := by
  rw [List.getLast?_filterMap]
  cases hlast : items.reverse.findSome? read with
  | none =>
    apply LastMeaning.none
    intro item hitem value hmeans
    have hsilent := List.findSome?_eq_none_iff.1 hlast item (List.mem_reverse.2 hitem)
    rw [(hread item value).2 hmeans] at hsilent
    cases hsilent
  | some value =>
    obtain ⟨after, item, before, hitems, hitem, hsilent⟩ := List.findSome?_eq_some_iff.1 hlast
    have hsplit : items = before.reverse ++ item :: after.reverse := by
      rw [← List.reverse_reverse items, hitems]
      simp
    apply LastMeaning.some hsplit ((hread item value).1 hitem)
    intro later hlater other hother
    have hnone := hsilent later (List.mem_reverse.1 hlater)
    rw [(hread later other).2 hother] at hnone
    cases hnone

theorem getLast?_cons_or {α : Type} (item : α) (rest : List α) :
    (item :: rest).getLast? = rest.getLast?.or (some item) := by
  rw [List.getLast?_cons]
  cases rest.getLast? <;> rfl

theorem getD_map_none {α β : Type} (found : Option α) (f : α → Option β) :
    (found.map f).getD none = found.bind f := by
  cases found <;> rfl

namespace SegmentKey

theorem ofName?_eq_some_iff {name : String} {key : SegmentKey} :
    ofName? name = some key ↔ key.name = name := by
  constructor
  · intro hfound
    unfold ofName? at hfound
    simpa using List.find?_some hfound
  · rintro rfl
    cases key <;> decide +kernel

theorem name_injective {a b : SegmentKey} (hsame : a.name = b.name) : a = b := by
  have ha := ofName?_eq_some_iff.2 (rfl : a.name = a.name)
  rw [hsame, ofName?_eq_some_iff.2 rfl] at ha
  exact (Option.some.inj ha).symm

end SegmentKey

namespace Segment

/-- The values that the parts of a body between semicolons give under a name, in the order written: the text
    after the equals sign, where the text before it is the name, both without the blanks around them. -/
def values (name : String) (body : List Char) : List (List Char) :=
  (body.splitOn ';').filterMap fun part =>
    if Text.strip (Text.cut '=' part).1 = name.toList then some (Text.strip (Text.cut '=' part).2)
    else none

/-- The values that segments give under a key. -/
def valuesOf (key : SegmentKey) (segments : List Segment) : List (List Char) :=
  (segments.filter (·.key = key)).map (·.value)

theorem valuesOf_cons (key : SegmentKey) (segment : Segment) (segments : List Segment) :
    valuesOf key (segment :: segments) =
      if segment.key = key then segment.value :: valuesOf key segments else valuesOf key segments := by
  unfold valuesOf
  rw [List.filter_cons]
  split <;> simp_all

theorem mem_valuesOf_iff {key : SegmentKey} {segments : List Segment} {value : List Char} :
    value ∈ valuesOf key segments ↔ ⟨key, value⟩ ∈ segments := by
  unfold valuesOf
  simp only [List.mem_map, List.mem_filter, decide_eq_true_eq]
  constructor
  · rintro ⟨⟨_, _⟩, ⟨hmem, rfl⟩, rfl⟩
    exact hmem
  · intro hmem
    exact ⟨⟨key, value⟩, ⟨hmem, rfl⟩, rfl⟩

theorem read?_eq_some_iff {part : List Char} {segment : Segment} :
    read? part = some segment ↔
      Text.strip (Text.cut '=' part).1 = segment.key.name.toList ∧
        Text.strip (Text.cut '=' part).2 = segment.value := by
  obtain ⟨key, value⟩ := segment
  simp only [read?, bind, pure, Option.bind_eq_some_iff, SegmentKey.ofName?_eq_some_iff,
    Option.some.injEq, Segment.mk.injEq]
  constructor
  · rintro ⟨_, hname, rfl, hvalue⟩
    exact ⟨by rw [hname, String.toList_ofList], hvalue⟩
  · rintro ⟨hname, hvalue⟩
    exact ⟨key, by rw [hname, String.ofList_toList], rfl, hvalue⟩

/-- The segments that are read of a body hold the values that the body gives. -/
theorem valuesOf_readAll (key : SegmentKey) (body : List Char) :
    valuesOf key (readAll body) = values key.name body := by
  unfold readAll values
  rw [Text.fields_eq_splitOn]
  induction body.splitOn ';' with
  | nil => rfl
  | cons part parts ih =>
    rw [List.filterMap_cons, List.filterMap_cons]
    cases hpart : read? part with
    | none =>
      have hother : ¬ Text.strip (Text.cut '=' part).1 = key.name.toList := by
        intro hname
        have hread := (@read?_eq_some_iff part ⟨key, _⟩).2 ⟨hname, rfl⟩
        rw [hpart] at hread
        cases hread
      rw [if_neg hother]
      exact ih
    | some segment =>
      obtain ⟨hname, hvalue⟩ := read?_eq_some_iff.1 hpart
      dsimp only
      rw [valuesOf_cons, ih, hname]
      by_cases hkey : segment.key = key
      · rw [if_pos hkey, if_pos (by rw [hkey]), hvalue]
      · rw [if_neg hkey, if_neg fun hsame => hkey (SegmentKey.name_injective (String.toList_inj.1 hsame))]

theorem mem_values_iff {key : SegmentKey} {body value : List Char} :
    value ∈ values key.name body ↔ ⟨key, value⟩ ∈ readAll body := by
  rw [← valuesOf_readAll, mem_valuesOf_iff]

end Segment

theorem Frequency.ofToken?_eq_some_iff {text : String} {frequency : Frequency} :
    ofToken? text = some frequency ↔ text = frequency.token := by
  constructor
  · intro hfound
    unfold ofToken? at hfound
    have htoken := List.find?_some hfound
    exact (eq_of_beq htoken).symm
  · rintro rfl
    exact ofToken?_token frequency

theorem Weekday.ofToken?_eq_some_iff {text : String} {day : Weekday} :
    ofToken? text = some day ↔ text = day.token := by
  constructor
  · intro hfound
    unfold ofToken? at hfound
    have htoken := List.find?_some hfound
    exact (eq_of_beq htoken).symm
  · rintro rfl
    exact ofToken?_token day

theorem Positive.ofInt?_eq_some_iff {number : Int} {positive : Positive} :
    ofInt? number = some positive ↔ number = positive.val := by
  unfold ofInt?
  have hpos := positive.property
  split
  · next hnumber =>
    rw [Option.some.injEq, Subtype.ext_iff]
    dsimp only
    omega
  · next hnumber =>
    constructor
    · intro hfound
      cases hfound
    · omega

/-- The number of at least one that a value starts with. -/
def leadingPositive? (value : List Char) : Option Positive :=
  (Text.leading? value).bind Positive.ofInt?

theorem leadingPositive?_eq_some_iff {value : List Char} {number : Positive} :
    leadingPositive? value = some number ↔ Text.LeadsWith value number.val := by
  unfold leadingPositive?
  rw [Option.bind_eq_some_iff]
  simp only [Positive.ofInt?_eq_some_iff, ← Text.leading?_eq_some_iff]
  constructor
  · rintro ⟨_, hleading, rfl⟩
    exact hleading
  · intro hleading
    exact ⟨_, hleading, rfl⟩

theorem readPositive_of_not_startsTooLong {value : List Char} (hshort : ¬ Text.StartsTooLong value) :
    readPositive value = .ok (leadingPositive? value) := by
  rw [readPositive, Text.leadingInteger_of_not_startsTooLong hshort]
  rfl

theorem readInterval_of_not_startsTooLong {value : List Char} (hshort : ¬ Text.StartsTooLong value) :
    readInterval value = .ok ((leadingPositive? value).getD .one) := by
  rw [readInterval, readPositive_of_not_startsTooLong hshort]
  rfl

theorem readPositions_of_not_startsTooLong {items : List (List Char)}
    (hshort : ∀ item ∈ items, ¬ Text.StartsTooLong item) :
    readPositions items = .ok (items.filterMap Text.leading?) := by
  induction items with
  | nil => rfl
  | cons item rest ih =>
    rw [readPositions, Text.leadingInteger_of_not_startsTooLong (hshort item List.mem_cons_self),
      ih fun other hother => hshort other (List.mem_cons_of_mem item hother), List.filterMap_cons]
    cases Text.leading? item <;> rfl

end Recurrence
