import Recurrence.Proofs.Outcome
import Recurrence.Storage.FileTree
import Mathlib.Data.List.Infix

namespace Recurrence.FileTree

variable {tree moved : FileTree} {place other source target : List String} {text : String}

theorem exists_of_fileAt? (hfound : tree.fileAt? place = some text) : (place, text) ∈ tree.files := by
  obtain ⟨⟨found, _⟩, hfind, rfl⟩ := Option.map_eq_some_iff.1 hfound
  have hplace : found = place := by simpa using List.find?_some hfind
  rw [← hplace]
  exact List.mem_of_find?_eq_some hfind

theorem fileAt?_write (tree : FileTree) (place other : List String) (text : String) :
    (tree.write place text).fileAt? other = if other = place then some text else tree.fileAt? other := by
  unfold write fileAt?
  split
  · next hany =>
    have hkeys : ((fun file : List String × String => file.1 == other) ∘ fun file =>
        if file.1 == place then (place, text) else file) = fun file => file.1 == other := by
      funext file
      by_cases hfile : file.1 = place <;> simp [hfile]
    rw [List.find?_map, hkeys]
    cases hfind : tree.files.find? (·.1 == other) with
    | none =>
      obtain ⟨file, hmem, hfile⟩ := List.any_eq_true.1 hany
      rw [if_neg fun hother => List.find?_eq_none.1 hfind file hmem (by rw [hother]; exact hfile)]
      rfl
    | some file =>
      have hfile : file.1 = other := by simpa using List.find?_some hfind
      by_cases hother : other = place <;> simp [hfile, hother]
  · next hany =>
    rw [List.find?_append, List.find?_singleton]
    by_cases hother : other = place
    · have hnone : tree.files.find? (·.1 == other) = none := by
        rw [List.find?_eq_none]
        exact fun file hmem hfile => hany (List.any_eq_true.2 ⟨file, hmem, by rwa [← hother]⟩)
      rw [hnone, if_pos hother]
      simp [hother]
    · simp [hother, Ne.symm hother]

@[simp]
theorem fileAt?_append_self (tree : FileTree) (place : List String) (text : String) :
    (tree.append place text).fileAt? place = some ((tree.fileAt? place).getD "" ++ text) := by
  rw [append, fileAt?_write, if_pos rfl]

theorem fileAt?_append_of_ne (hne : other ≠ place) (tree : FileTree) (text : String) :
    (tree.append place text).fileAt? other = tree.fileAt? other := by
  rw [append, fileAt?_write, if_neg hne]

theorem relocated_of_apart (hplace : ¬ source <+: place) : relocated source target place = place := by
  rw [relocated, if_neg (by simpa using hplace)]

@[simp]
theorem relocated_self (source target : List String) : relocated source target source = target := by
  simp [relocated]

/-- The text at a place after a relocation is the one at the only place that is relocated there. -/
theorem fileAt?_relocate
    (hkeys : ∀ earlier, earlier ≠ target ∧ relocated source target earlier = other ↔ earlier = place)
    (tree : FileTree) : (tree.relocate source target).fileAt? other = tree.fileAt? place := by
  have hfilter : ∀ file : List String × String,
      decide ((file.1 != target) = true ∧ (relocated source target file.1 == other) = true) =
        (file.1 == place) := by
    intro file
    rw [Bool.eq_iff_iff]
    simpa using hkeys file.1
  simp only [fileAt?, relocate, remove, List.find?_map, List.find?_filter, Function.comp_def, hfilter,
    Option.map_map]

/-- A move that succeeds either finds nothing to move, or it is to a place that something can be moved to
    and relocates what it finds. -/
theorem move_eq_ok_iff : tree.move source target = .ok moved ↔
    (tree.fileAt? source = none ∧ tree.isFolder source = false) ∧ moved = tree ∨
      ((tree.fileAt? source).isSome ∨ tree.isFolder source) ∧ tree.checkTarget target = .ok () ∧
        moved = tree.relocate source target := by
  unfold move
  split
  · next hfound =>
    rw [Bool.or_eq_true] at hfound
    rw [map_eq_ok_iff]
    constructor
    · rintro ⟨_, hcheck, rfl⟩
      exact .inr ⟨hfound, hcheck, rfl⟩
    · rintro (⟨⟨hfile, hfolder⟩, -⟩ | ⟨-, hcheck, rfl⟩)
      · simp [hfile, hfolder] at hfound
      · exact ⟨(), hcheck, rfl⟩
  · next hfound =>
    rw [Bool.or_eq_true, not_or, Option.not_isSome_iff_eq_none, Bool.not_eq_true] at hfound
    constructor
    · intro hmoved
      cases hmoved
      exact .inl ⟨hfound, rfl⟩
    · rintro (⟨-, rfl⟩ | ⟨hthere, -, -⟩)
      · rfl
      · simp [hfound.1, hfound.2] at hthere

/-- Every text of a tree was in an earlier one, at some place. -/
def HasTextsOf (tree earlier : FileTree) : Prop :=
  ∀ file ∈ tree.files, ∃ place, (place, file.2) ∈ earlier.files

theorem HasTextsOf.refl (tree : FileTree) : tree.HasTextsOf tree :=
  fun file hmem => ⟨file.1, hmem⟩

theorem HasTextsOf.trans {first second third : FileTree} (hthird : third.HasTextsOf second)
    (hsecond : second.HasTextsOf first) : third.HasTextsOf first := by
  intro file hmem
  obtain ⟨place, hplace⟩ := hthird file hmem
  exact hsecond (place, file.2) hplace

theorem hasTextsOf_move (hmove : tree.move source target = .ok moved) : moved.HasTextsOf tree := by
  rcases move_eq_ok_iff.1 hmove with ⟨-, rfl⟩ | ⟨-, -, rfl⟩
  · exact .refl _
  · intro file hmem
    obtain ⟨earlier, hearlier, rfl⟩ := List.mem_map.1 hmem
    exact ⟨earlier.1, List.mem_of_mem_filter hearlier⟩

/-- What is neither below the one place nor below the other stays where it is. -/
theorem fileAt?_move_of_apart (hmove : tree.move source target = .ok moved) (hsource : ¬ source <+: other)
    (htarget : ¬ target <+: other) : moved.fileAt? other = tree.fileAt? other := by
  rcases move_eq_ok_iff.1 hmove with ⟨-, rfl⟩ | ⟨-, -, rfl⟩
  · rfl
  · apply fileAt?_relocate
    intro earlier
    constructor
    · rintro ⟨-, hto⟩
      by_cases hbelow : source <+: earlier
      · rw [relocated, if_pos (by simpa using hbelow)] at hto
        exact absurd (hto ▸ List.prefix_append _ _) htarget
      · rwa [relocated_of_apart hbelow] at hto
    · rintro rfl
      exact ⟨fun h => htarget (h ▸ List.prefix_rfl), relocated_of_apart hsource⟩

/-- What was at the one place is at the other, if this is not below it. -/
theorem fileAt?_move_target (hmove : tree.move source target = .ok moved)
    (hsource : (tree.fileAt? source).isSome) (hbelow : ¬ source <+: target) :
    moved.fileAt? target = tree.fileAt? source := by
  rcases move_eq_ok_iff.1 hmove with ⟨⟨hnone, -⟩, -⟩ | ⟨-, -, rfl⟩
  · rw [hnone] at hsource
    cases hsource
  · apply fileAt?_relocate
    intro earlier
    constructor
    · rintro ⟨hne, hto⟩
      by_cases hstarts : source <+: earlier
      · obtain ⟨rest, rfl⟩ := hstarts
        simpa [relocated] using hto
      · exact absurd ((relocated_of_apart hstarts).symm.trans hto) hne
    · rintro rfl
      exact ⟨fun h => hbelow (h ▸ List.prefix_rfl), relocated_self _ _⟩

/-- What is moved is no longer where it was. -/
theorem fileAt?_move_source (hmove : tree.move source target = .ok moved)
    (hsource : (tree.fileAt? source).isSome) (habove : ¬ target <+: source) :
    moved.fileAt? source = none := by
  rcases move_eq_ok_iff.1 hmove with ⟨⟨hnone, -⟩, -⟩ | ⟨-, -, rfl⟩
  · rw [hnone] at hsource
    cases hsource
  · rw [Option.eq_none_iff_forall_ne_some]
    intro text hfound
    obtain ⟨earlier, -, hto⟩ := List.mem_map.1 (exists_of_fileAt? hfound)
    have hto : relocated source target earlier.1 = source := congrArg Prod.fst hto
    by_cases hstarts : source <+: earlier.1
    · rw [relocated, if_pos (by simpa using hstarts)] at hto
      exact habove (hto ▸ List.prefix_append _ _)
    · rw [relocated_of_apart hstarts] at hto
      exact hstarts (hto ▸ List.prefix_rfl)

theorem isFolder_eq_false_iff : tree.isFolder place = false ↔
    place ≠ [] ∧ (∀ folder ∈ tree.folders, ¬ place <+: folder) ∧
      ∀ file ∈ tree.files, place <+: file.1 → file.1.length ≤ place.length := by
  simp [isFolder, and_assoc]

/-- A move of a file makes no folder where the path is as long as the one it is moved to. -/
theorem isFolder_move (hmove : tree.move source target = .ok moved) (hfile : tree.isFolder source = false)
    (hlength : target.length ≤ other.length) (hother : tree.isFolder other = false) :
    moved.isFolder other = false := by
  rcases move_eq_ok_iff.1 hmove with ⟨-, rfl⟩ | ⟨-, -, rfl⟩
  · exact hother
  · rw [isFolder_eq_false_iff] at hfile hother ⊢
    obtain ⟨-, hfolders, hfiles⟩ := hfile
    refine ⟨hother.1, fun folder hfolder => ?_, fun file hmem hbelow => ?_⟩
    · obtain ⟨earlier, hearlier, rfl⟩ := List.mem_map.1 hfolder
      rw [relocated_of_apart (hfolders earlier hearlier)]
      exact hother.2.1 earlier hearlier
    · obtain ⟨earlier, hearlier, rfl⟩ := List.mem_map.1 hmem
      have hthere := List.mem_of_mem_filter hearlier
      by_cases hstarts : source <+: earlier.1
      · have hself : earlier.1 = source :=
          (hstarts.eq_of_length (Nat.le_antisymm hstarts.length_le (hfiles earlier hthere hstarts))).symm
        rw [hself, relocated_self]
        exact hlength
      · rw [relocated_of_apart hstarts] at hbelow ⊢
        exact hother.2.2 earlier hthere hbelow

theorem checkTarget_eq_ok_iff : tree.checkTarget target = .ok () ↔
    checkName ⟨"/", target⟩ = .ok () ∧ (target.getLastD "").utf8ByteSize ≤ longestName ∧
      tree.isFolder target = false := by
  unfold checkTarget
  simp only [bind_eq_ok_iff, ← Nat.not_lt]
  constructor
  · rintro ⟨_, hname, hrest⟩
    split_ifs at hrest with hlong hfolder
    exact ⟨hname, hlong, Bool.eq_false_iff.2 hfolder⟩
  · rintro ⟨hname, hlong, hfolder⟩
    exact ⟨(), hname, by rw [if_neg hlong, hfolder, if_neg Bool.false_ne_true]⟩

theorem exists_move (hcheck : tree.checkTarget target = .ok ()) (source : List String) :
    ∃ moved, tree.move source target = .ok moved := by
  rw [move, hcheck]
  split
  · exact ⟨_, rfl⟩
  · exact ⟨_, rfl⟩

/-- A move of a file refuses no place that it has not refused before, if the path there is as long as the
    one it is moved to. -/
theorem checkTarget_move (hmove : tree.move source target = .ok moved)
    (hfile : tree.isFolder source = false) (hlength : target.length ≤ other.length)
    (hcheck : tree.checkTarget other = .ok ()) : moved.checkTarget other = .ok () := by
  rw [checkTarget_eq_ok_iff] at hcheck ⊢
  exact ⟨hcheck.1, hcheck.2.1, isFolder_move hmove hfile hlength hcheck.2.2⟩

end Recurrence.FileTree
