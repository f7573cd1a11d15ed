import Mathlib.Data.List.TakeWhile
import Recurrence.Text.Numeral
import Recurrence.Text.Split

namespace Recurrence.Text

theorem after?_eq_some_iff {expected text rest : List Char} :
    after? expected text = some rest ↔ text = expected ++ rest := by
  unfold after?
  split
  · next hprefix =>
    obtain ⟨found, rfl⟩ := List.isPrefixOf_iff_prefix.1 hprefix
    simp [eq_comm]
  · next hprefix =>
    constructor
    · intro hafter
      cases hafter
    · intro htext
      rw [htext] at hprefix
      exact absurd (List.isPrefixOf_iff_prefix.2 (List.prefix_append _ _)) hprefix

theorem after?_eq_none_iff {expected text : List Char} :
    after? expected text = none ↔ ¬ expected <+: text := by
  unfold after?
  rw [← List.isPrefixOf_iff_prefix]
  split <;> simp_all

theorem takeDigits_eq_some_iff {count : Nat} {text digits rest : List Char} :
    takeDigits count text = some (digits, rest) ↔
      text = digits ++ rest ∧ digits.length = count ∧ ∀ c ∈ digits, isDigit c = true := by
  unfold takeDigits
  dsimp only
  constructor
  · intro htake
    split at htake
    · next hdigits =>
      cases htake
      obtain ⟨hlength, hall⟩ := hdigits
      exact ⟨(List.take_append_drop count text).symm, hlength, by simpa using hall⟩
    · cases htake
  · rintro ⟨rfl, rfl, hdigits⟩
    rw [List.take_left, List.drop_left, if_pos ⟨rfl, List.all_eq_true.2 hdigits⟩]

/-- What a text holds at the leftmost place from which anything of its kind begins. -/
def Leftmost {α : Type} (Begins : List Char → α → Prop) (text : List Char) (found : α) : Prop :=
  ∃ before here, text = before ++ here ∧ Begins here found ∧
    ∀ earlier rest, text = earlier ++ rest → earlier.length < before.length →
      ∀ other, ¬ Begins rest other

section Leftmost

variable {α : Type} {Begins : List Char → α → Prop} {c : Char} {text : List Char} {found : α}

theorem leftmost_of_begins (hbegins : Begins text found) : Leftmost Begins text found :=
  ⟨[], text, rfl, hbegins, fun earlier _ _ hshort => absurd hshort (Nat.not_lt_zero earlier.length)⟩

theorem leftmost_cons_iff (hnone : ∀ other, ¬ Begins (c :: text) other) :
    Leftmost Begins (c :: text) found ↔ Leftmost Begins text found := by
  constructor
  · rintro ⟨before, here, htext, hbegins, hfirst⟩
    cases before with
    | nil =>
      rw [List.nil_append] at htext
      exact absurd (htext ▸ hbegins) (hnone found)
    | cons first before =>
      obtain ⟨rfl, rfl⟩ := List.cons_eq_cons.1 htext
      refine ⟨before, here, rfl, hbegins, ?_⟩
      intro earlier rest hrest hshort
      exact hfirst (c :: earlier) rest (by rw [hrest, List.cons_append]) (Nat.succ_lt_succ hshort)
  · rintro ⟨before, here, rfl, hbegins, hfirst⟩
    refine ⟨c :: before, here, rfl, hbegins, ?_⟩
    intro earlier rest hrest hshort
    cases earlier with
    | nil =>
      rw [List.nil_append] at hrest
      rw [← hrest]
      exact hnone
    | cons first earlier =>
      obtain ⟨rfl, hmore⟩ := List.cons_eq_cons.1 hrest
      exact hfirst earlier rest hmore (Nat.lt_of_succ_lt_succ hshort)

variable {read : List Char → Option α}

/-- A search from the left finds what stands leftmost of all that its reader reads. -/
theorem searchFirst_eq_some_iff (hread : ∀ text found, read text = some found ↔ Begins text found) :
    searchFirst read text = some found ↔ Leftmost Begins text found := by
  induction text with
  | nil =>
    rw [searchFirst, hread]
    constructor
    · exact leftmost_of_begins
    · rintro ⟨before, here, htext, hbegins, -⟩
      obtain ⟨-, rfl⟩ := List.append_eq_nil_iff.1 htext.symm
      exact hbegins
  | cons c rest ih =>
    rw [searchFirst]
    cases hhere : read (c :: rest) with
    | none =>
      have hnone : ∀ other, ¬ Begins (c :: rest) other := by
        intro other hother
        rw [← hread, hhere] at hother
        cases hother
      rw [leftmost_cons_iff hnone]
      exact ih
    | some here =>
      have hbegins := (hread _ _).1 hhere
      constructor
      · intro hsame
        cases hsame
        exact leftmost_of_begins hbegins
      · rintro ⟨before, _, htext, hfound, hfirst⟩
        cases before with
        | nil =>
          rw [List.nil_append] at htext
          have hsame := (hread _ _).2 (htext ▸ hfound)
          rw [hhere] at hsame
          exact hsame
        | cons first before =>
          exact absurd hbegins (hfirst [] _ rfl (Nat.zero_lt_succ _) here)

/-- A search from the left finds something exactly if its reader reads something somewhere. -/
theorem searchFirst_isSome_iff :
    (searchFirst read text).isSome = true ↔
      ∃ before rest, text = before ++ rest ∧ (read rest).isSome = true := by
  induction text with
  | nil =>
    rw [searchFirst]
    constructor
    · intro hread
      exact ⟨[], [], rfl, hread⟩
    · rintro ⟨before, rest, htext, hread⟩
      obtain ⟨-, rfl⟩ := List.append_eq_nil_iff.1 htext.symm
      exact hread
  | cons c more ih =>
    rw [searchFirst]
    cases hhere : read (c :: more) with
    | some found => exact iff_of_true rfl ⟨[], c :: more, rfl, hhere ▸ rfl⟩
    | none =>
      rw [ih]
      constructor
      · rintro ⟨before, rest, rfl, hread⟩
        exact ⟨c :: before, rest, rfl, hread⟩
      · rintro ⟨before, rest, htext, hread⟩
        cases before with
        | nil =>
          rw [List.nil_append] at htext
          rw [← htext, hhere] at hread
          cases hread
        | cons first before =>
          obtain ⟨rfl, rfl⟩ := List.cons_eq_cons.1 htext
          exact ⟨before, rest, rfl, hread⟩

end Leftmost

theorem searchFirst_after?_isSome_iff {part text : List Char} :
    (searchFirst (after? part) text).isSome = true ↔ part <:+: text := by
  rw [searchFirst_isSome_iff]
  simp only [Option.isSome_iff_exists, after?_eq_some_iff]
  constructor
  · rintro ⟨before, _, rfl, after, rfl⟩
    exact ⟨before, after, List.append_assoc ..⟩
  · rintro ⟨before, after, rfl⟩
    exact ⟨before, _, List.append_assoc .., after, rfl⟩

/-- The fields of a text are its parts between the separators. -/
theorem fields_eq_splitOn (separator : Char) (text : List Char) :
    fields separator text = text.splitOn separator := by
  induction text with
  | nil => rfl
  | cons c rest ih =>
    rw [fields, ih, List.splitOn, List.splitOn, List.splitOnP_cons_eq_if_modifyHead]
    by_cases hc : c = separator
    · simp [hc]
    · obtain ⟨field, more, hfields⟩ := List.exists_cons_of_ne_nil
        (List.splitOnP_ne_nil (· == separator) rest)
      simp [hc, hfields]

theorem mem_of_mem_intercalate {c : Char} {separator : List Char} {parts : List (List Char)}
    (hc : c ∈ separator.intercalate parts) : c ∈ separator ∨ ∃ part ∈ parts, c ∈ part := by
  induction parts with
  | nil => simp at hc
  | cons part rest ih =>
    cases rest with
    | nil => exact Or.inr ⟨part, List.mem_cons_self, by simpa using hc⟩
    | cons next rest =>
      rw [List.intercalate_cons_cons, List.mem_append, List.mem_append] at hc
      rcases hc with (hc | hc) | hc
      · exact Or.inr ⟨part, List.mem_cons_self, hc⟩
      · exact Or.inl hc
      · rcases ih hc with hc | ⟨other, hother, hc⟩
        · exact Or.inl hc
        · exact Or.inr ⟨other, List.mem_cons_of_mem part hother, hc⟩

/-- A text is cut in two where a property of its characters ends. -/
theorem takeWhile_dropWhile_append {p : Char → Bool} {front rest : List Char}
    (hfront : ∀ c ∈ front, p c = true) (hrest : ∀ c, rest.head? = some c → p c = false) :
    (front ++ rest).takeWhile p = front ∧ (front ++ rest).dropWhile p = rest := by
  rw [List.takeWhile_append_of_pos hfront, List.dropWhile_append_of_pos hfront]
  cases rest with
  | nil => simp
  | cons c more => simp [hrest c rfl]

theorem bne_of_notMem {mark : Char} {text : List Char} (hmark : mark ∉ text) :
    ∀ c ∈ text, (c != mark) = true := by
  intro c hc
  simp only [bne_iff_ne, ne_eq]
  rintro rfl
  exact hmark hc

theorem notMem_of_isDigit {mark : Char} {digits : List Char} (hmark : isDigit mark = false)
    (hdigits : ∀ c ∈ digits, isDigit c = true) : mark ∉ digits := by
  intro hmem
  rw [hdigits mark hmem] at hmark
  cases hmark

theorem cut_append_cons {separator : Char} {key value : List Char} (hkey : separator ∉ key) :
    cut separator (key ++ separator :: value) = (key, value) := by
  have hstop : ∀ c, (separator :: value).head? = some c → (c != separator) = false := by
    intro c hc
    cases hc
    exact bne_self_eq_false' ..
  obtain ⟨htake, hdrop⟩ := takeWhile_dropWhile_append (bne_of_notMem hkey) hstop
  rw [cut, htake, hdrop, List.drop_one, List.tail_cons]

/-- Of two places where a text holds a mark, one that has no mark before it is the first. -/
theorem eq_or_of_append_cons_eq {mark : Char} {front rest other more : List Char} (hfront : mark ∉ front)
    (hsame : other ++ mark :: more = front ++ mark :: rest) :
    other = front ∨ ∃ between, other = front ++ mark :: between ∧ rest = between ++ mark :: more := by
  rcases List.append_eq_append_iff.1 hsame with ⟨between, hlonger, hmore⟩ | ⟨between, hlonger, hrest⟩
  · cases between with
    | nil => exact Or.inl (by simpa using hlonger.symm)
    | cons c between =>
      obtain ⟨rfl, -⟩ := List.cons_eq_cons.1 hmore
      exact absurd (hlonger ▸ List.mem_append_right other List.mem_cons_self) hfront
  · cases between with
    | nil => exact Or.inl (by simpa using hlonger)
    | cons c between =>
      obtain ⟨rfl, hbetween⟩ := List.cons_eq_cons.1 hrest
      exact Or.inr ⟨between, hlonger, hbetween⟩

theorem dropWhile_of_forall_not {p : Char → Bool} {text : List Char} (htext : ∀ c ∈ text, p c = false) :
    text.dropWhile p = text :=
  List.dropWhile_eq_self_iff.2 fun hlength => by simp [htext _ (List.getElem_mem hlength)]

theorem strip_of_forall_not_blank {text : List Char} (htext : ∀ c ∈ text, isBlank c = false) :
    strip text = text := by
  rw [strip, stripRight, stripLeft, dropWhile_of_forall_not htext,
    dropWhile_of_forall_not (by simpa using htext), List.reverse_reverse]

/-- A text with no blank at either end stays as it is. -/
theorem strip_of_ends {text : List Char} (hfirst : ∀ c, text.head? = some c → isBlank c = false)
    (hlast : ∀ c, text.getLast? = some c → isBlank c = false) : strip text = text := by
  have hkept : ∀ {text : List Char}, (∀ c, text.head? = some c → isBlank c = false) →
      text.dropWhile isBlank = text := by
    intro text hfirst
    cases text with
    | nil => rfl
    | cons c rest => rw [List.dropWhile_cons_of_neg (by simp [hfirst c rfl])]
  rw [strip, stripRight, stripLeft, hkept hfirst, hkept (by simpa using hlast), List.reverse_reverse]

theorem strip_eq_nil_iff {text : List Char} : strip text = [] ↔ ∀ c ∈ text, isBlank c = true := by
  rw [strip, stripRight, List.reverse_eq_nil_iff, List.dropWhile_eq_nil_iff, stripLeft]
  constructor
  · intro hblank
    rw [← List.dropWhile_eq_nil_iff]
    by_contra hsome
    have hfirst := List.head_dropWhile_not isBlank hsome
    rw [hblank _ (List.mem_reverse.2 (List.head_mem hsome))] at hfirst
    cases hfirst
  · intro hblank c hc
    exact hblank c ((List.dropWhile_sublist isBlank).mem (List.mem_reverse.1 hc))

end Recurrence.Text
