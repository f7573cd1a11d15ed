import Recurrence.Proofs.Text.Search
import Recurrence.Text.Blank

namespace Recurrence.Text

/-- A text with a carriage return before each of its line feeds. -/
def withReturns (text : List Char) : List Char :=
  text.flatMap fun c => if c = '\n' then ['\r', '\n'] else [c]

@[simp] theorem withReturns_nil : withReturns [] = [] := rfl

@[simp] theorem withReturns_newline (rest : List Char) :
    withReturns ('\n' :: rest) = '\r' :: '\n' :: withReturns rest := rfl

theorem withReturns_cons {c : Char} (hc : c ≠ '\n') (rest : List Char) :
    withReturns (c :: rest) = c :: withReturns rest := by
  rw [withReturns, List.flatMap_cons, if_neg hc]
  rfl

theorem withReturns_append (front rest : List Char) :
    withReturns (front ++ rest) = withReturns front ++ withReturns rest :=
  List.flatMap_append

theorem withReturns_of_notMem {text : List Char} (htext : '\n' ∉ text) : withReturns text = text := by
  induction text with
  | nil => rfl
  | cons c rest ih =>
    rw [List.mem_cons, not_or] at htext
    rw [withReturns_cons (Ne.symm htext.1), ih htext.2]

theorem withReturns_isEmpty (text : List Char) : (withReturns text).isEmpty = text.isEmpty := by
  cases text with
  | nil => rfl
  | cons c rest =>
    by_cases hc : c = '\n'
    · subst hc
      rfl
    · rw [withReturns_cons hc]
      rfl

theorem replaceFrom_newline (text : List Char) :
    replaceFrom ['\n'] ['\r', '\n'] 0 text = withReturns text := by
  induction text with
  | nil => rfl
  | cons c rest ih =>
    rw [replaceFrom]
    by_cases hc : c = '\n'
    · subst hc
      rw [if_pos (by rfl), withReturns_newline, ← ih]
      rfl
    · rw [if_neg (by simp [Ne.symm hc]), withReturns_cons hc, ih]

/-- Replacing every line feed puts a carriage return before each of them. -/
theorem toList_replaceAll_newline (text : String) :
    (replaceAll "\n" "\r\n" text).toList = withReturns text.toList := by
  rw [replaceAll, String.toList_ofList]
  exact replaceFrom_newline text.toList

/-- What stands before a place that is no line end is the same text, with its own line ends replaced. -/
theorem withReturns_eq_append_iff {text front rest : List Char} (hreturn : '\r' ∉ front) (hline : '\n' ∉ front) :
    withReturns text = front ++ rest ↔ ∃ more, text = front ++ more ∧ withReturns more = rest := by
  constructor
  · intro htext
    induction front generalizing text with
    | nil => exact ⟨text, rfl, htext⟩
    | cons c front ih =>
      rw [List.mem_cons, not_or] at hreturn hline
      cases text with
      | nil => cases htext
      | cons d text =>
        by_cases hd : d = '\n'
        · subst hd
          exact absurd (List.cons_eq_cons.1 htext).1 hreturn.1
        · rw [withReturns_cons hd] at htext
          obtain ⟨rfl, hrest⟩ := List.cons_eq_cons.1 htext
          obtain ⟨more, rfl, hmore⟩ := ih hreturn.2 hline.2 hrest
          exact ⟨more, rfl, hmore⟩
  · rintro ⟨more, rfl, rfl⟩
    rw [withReturns_append, withReturns_of_notMem hline]

theorem after?_withReturns {expected : List Char} (hreturn : '\r' ∉ expected) (hline : '\n' ∉ expected)
    (text : List Char) : after? expected (withReturns text) = (after? expected text).map withReturns := by
  ext rest
  simp only [after?_eq_some_iff, Option.map_eq_some_iff, withReturns_eq_append_iff hreturn hline]

theorem takeDigits_withReturns (count : Nat) (text : List Char) :
    takeDigits count (withReturns text) = (takeDigits count text).map (Prod.map id withReturns) := by
  have happend : ∀ {digits rest : List Char}, (∀ c ∈ digits, isDigit c = true) →
      (withReturns text = digits ++ rest ↔ ∃ more, text = digits ++ more ∧ withReturns more = rest) :=
    fun hdigits => withReturns_eq_append_iff (notMem_of_isDigit (by decide) hdigits)
      (notMem_of_isDigit (by decide) hdigits)
  ext ⟨digits, rest⟩
  simp only [takeDigits_eq_some_iff, Option.map_eq_some_iff, Prod.exists, Prod.map_apply, id_eq, Prod.mk.injEq]
  constructor
  · rintro ⟨htext, hlength, hdigits⟩
    obtain ⟨more, hmore, hrest⟩ := (happend hdigits).1 htext
    exact ⟨digits, more, ⟨hmore, hlength, hdigits⟩, rfl, hrest⟩
  · rintro ⟨_, more, ⟨htext, hlength, hdigits⟩, rfl, hrest⟩
    exact ⟨(happend hdigits).2 ⟨more, htext, hrest⟩, hlength, hdigits⟩

/-- A cut at a character that is no line end cuts both texts at the same place. -/
theorem span_withReturns (stop : Char) (hreturn : stop ≠ '\r') (hline : stop ≠ '\n') (text : List Char) :
    (withReturns text).takeWhile (· != stop) = withReturns (text.takeWhile (· != stop)) ∧
      (withReturns text).dropWhile (· != stop) = withReturns (text.dropWhile (· != stop)) := by
  induction text with
  | nil => exact ⟨rfl, rfl⟩
  | cons c rest ih =>
    obtain ⟨htake, hdrop⟩ := ih
    by_cases hc : c = '\n'
    · subst hc
      simp [htake, hdrop, Ne.symm hreturn, Ne.symm hline]
    · rw [withReturns_cons hc]
      by_cases hstop : c = stop
      · simp [hstop, withReturns_cons hline]
      · simp [hstop, htake, hdrop, withReturns_cons hc]

/-- The first line of a text keeps the carriage return of its end, if it has an end. -/
theorem takeWhile_withReturns (text : List Char) :
    (withReturns text).takeWhile (· != '\n') =
      text.takeWhile (· != '\n') ++ if '\n' ∈ text then ['\r'] else [] := by
  induction text with
  | nil => rfl
  | cons c rest ih =>
    by_cases hc : c = '\n'
    · subst hc
      simp
    · simp [withReturns_cons hc, hc, Ne.symm hc, ih]

section Search

variable {α β : Type} {read : List Char → Option α}

/-- A reader that takes no line feed at its start finds in a text with carriage returns what it finds, read so at
    every place, in the plain text. -/
theorem searchFirst_withReturns {plain : List Char → Option α}
    (hread : ∀ text, read (withReturns text) = plain text)
    (hnewline : ∀ rest, read ('\n' :: rest) = none) (text : List Char) :
    searchFirst read (withReturns text) = searchFirst plain text := by
  induction text with
  | nil => exact hread []
  | cons c rest ih =>
    have hhere := hread (c :: rest)
    by_cases hc : c = '\n'
    · subst hc
      rw [withReturns_newline] at hhere ⊢
      rw [searchFirst, hhere, searchFirst, hnewline, ih, searchFirst]
    · rw [withReturns_cons hc] at hhere ⊢
      rw [searchFirst, hhere, ih, searchFirst]

theorem searchFirst_map (f : α → β) (text : List Char) :
    searchFirst (fun here => (read here).map f) text = (searchFirst read text).map f := by
  induction text with
  | nil => rfl
  | cons c rest ih =>
    rw [searchFirst, searchFirst, ih]
    cases read (c :: rest) <;> rfl

/-- Where a reader finds something that a second one can go on from, both together find it. -/
theorem searchFirst_bind_of_some {f : α → Option β} {text : List Char} {found : α} {result : β}
    (hfound : searchFirst read text = some found) (hresult : f found = some result) :
    searchFirst (fun here => (read here).bind f) text = some result := by
  induction text with
  | nil =>
    rw [searchFirst] at hfound ⊢
    rw [hfound, Option.bind_some, hresult]
  | cons c rest ih =>
    rw [searchFirst] at hfound ⊢
    cases hhere : read (c :: rest) with
    | none =>
      rw [hhere] at hfound
      exact ih hfound
    | some here =>
      rw [hhere] at hfound
      cases hfound
      rw [Option.bind_some, hresult]

theorem searchFirst_bind_of_none {f : α → Option β} {text : List Char} (hfound : searchFirst read text = none) :
    searchFirst (fun here => (read here).bind f) text = none := by
  induction text with
  | nil =>
    rw [searchFirst] at hfound ⊢
    rw [hfound, Option.bind_none]
  | cons c rest ih =>
    rw [searchFirst] at hfound ⊢
    cases hhere : read (c :: rest) with
    | none =>
      rw [hhere] at hfound
      exact ih hfound
    | some here =>
      rw [hhere] at hfound
      cases hfound

end Search

/-- A blank that stands last does not count. -/
theorem strip_append_blank {c : Char} (hc : isBlank c = true) (text : List Char) :
    strip (text ++ [c]) = strip text := by
  have hright : ∀ body, stripRight (body ++ [c]) = stripRight body := by
    intro body
    rw [stripRight, List.reverse_append, List.reverse_singleton, List.singleton_append,
      List.dropWhile_cons_of_pos hc, stripRight]
  rw [strip, stripLeft, List.dropWhile_append]
  split
  · next hblank =>
    rw [List.isEmpty_iff] at hblank
    rw [List.dropWhile_cons_of_pos hc, List.dropWhile_nil, strip, stripLeft, hblank]
  · rw [hright, strip, stripLeft]

theorem cut_of_notMem {separator : Char} {text : List Char} (htext : separator ∉ text) :
    cut separator text = (text, []) := by
  have hpass := bne_of_notMem htext
  rw [cut, List.takeWhile_eq_self_iff.2 hpass, List.dropWhile_eq_nil_iff.2 hpass, List.drop_nil]

/-- A blank that stands last changes neither of the two stripped sides of a cut. -/
theorem strip_cut_append_blank {separator c : Char} (hc : isBlank c = true) (hne : c ≠ separator)
    (text : List Char) :
    strip (cut separator (text ++ [c])).1 = strip (cut separator text).1 ∧
      strip (cut separator (text ++ [c])).2 = strip (cut separator text).2 := by
  by_cases hmem : separator ∈ text
  · obtain ⟨key, value, rfl, hkey⟩ := List.eq_append_cons_of_mem hmem
    rw [List.append_assoc, List.cons_append, cut_append_cons hkey, cut_append_cons hkey]
    exact ⟨rfl, strip_append_blank hc value⟩
  · have hmore : separator ∉ text ++ [c] := by
      simp [hmem, Ne.symm hne]
    rw [cut_of_notMem hmem, cut_of_notMem hmore]
    exact ⟨strip_append_blank hc text, rfl⟩

/-- A character that is no separator and stands last belongs to the last field. -/
theorem fields_append_of_ne {separator c : Char} (hc : c ≠ separator) (text : List Char) :
    ∃ front last, fields separator text = front ++ [last] ∧
      fields separator (text ++ [c]) = front ++ [last ++ [c]] := by
  induction text with
  | nil => exact ⟨[], [], rfl, by simp [fields, hc]⟩
  | cons d rest ih =>
    obtain ⟨front, last, hrest, hmore⟩ := ih
    rw [List.cons_append, fields, fields, hrest, hmore]
    by_cases hd : d = separator
    · rw [if_pos hd, if_pos hd]
      exact ⟨[] :: front, last, rfl, rfl⟩
    · rw [if_neg hd, if_neg hd]
      cases front with
      | nil => exact ⟨[], d :: last, rfl, rfl⟩
      | cons field front => exact ⟨(d :: field) :: front, last, rfl, rfl⟩

end Recurrence.Text
