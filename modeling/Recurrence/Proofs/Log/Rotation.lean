import Recurrence.Log.Journal
import Recurrence.Proofs.Storage.FileTree

namespace Recurrence.LogFile

open FileTree

variable {file : LogFile} {files after : FileTree} {place : List String} {number : Nat} {line time : String}
  {record : Log.Record} {fault : StorageFault}

section Backup

theorem length_backup (hplace : place ≠ []) (number : Nat) : (backup place number).length = place.length := by
  have hlength := List.length_pos_iff.2 hplace
  simp only [backup, List.length_append, List.length_dropLast, List.length_singleton]
  omega

theorem backup_ne (place : List String) (number : Nat) : backup place number ≠ place := by
  intro hbackup
  have hlast := congrArg (·.getLastD "") hbackup
  simp only [backup, List.getLastD_concat] at hlast
  have hlength := congrArg String.length hlast
  have hdot : (toString ".").length = 1 := rfl
  simp only [String.length_append, hdot] at hlength
  change (place.getLastD "").length + 1 + _ = (place.getLastD "").length at hlength
  omega

theorem backup_apart (hplace : place ≠ []) (number : Nat) : ¬ backup place number <+: place :=
  fun h => backup_ne place number (h.eq_of_length (length_backup hplace number))

theorem apart_backup (hplace : place ≠ []) (number : Nat) : ¬ place <+: backup place number :=
  fun h => backup_ne place number (h.eq_of_length (length_backup hplace number).symm).symm

end Backup

/-- The places of all backups are such that something can be moved there. -/
def HasRoom (place : List String) (backups : Nat) (files : FileTree) : Prop :=
  ∀ number, 1 ≤ number → number ≤ backups → files.checkTarget (backup place number) = .ok ()

theorem isFolder_backup {backups : Nat} (hroom : HasRoom place backups files) (hlow : 1 ≤ number)
    (hhigh : number ≤ backups) : files.isFolder (backup place number) = false :=
  (checkTarget_eq_ok_iff.1 (hroom number hlow hhigh)).2.2

/-- A move between backups keeps the file itself, its room for backups, and makes no text up. -/
theorem move_backup (hplace : place ≠ []) {moved : FileTree} {target : Nat}
    (hmove : files.move (backup place number) (backup place target) = .ok moved) :
    moved.fileAt? place = files.fileAt? place ∧ moved.HasTextsOf files ∧
      ∀ backups, HasRoom place backups files → 1 ≤ number → number ≤ backups →
        HasRoom place backups moved := by
  refine ⟨fileAt?_move_of_apart hmove (backup_apart hplace _) (backup_apart hplace _),
    hasTextsOf_move hmove, fun backups hroom hlow hhigh other hother hlast => ?_⟩
  refine checkTarget_move hmove (isFolder_backup hroom hlow hhigh) ?_ (hroom other hother hlast)
  rw [length_backup hplace, length_backup hplace]

theorem shiftBackups_spec (hplace : place ≠ []) (number : Nat) (files : FileTree) :
    (shiftBackups place number files).1.fileAt? place = files.fileAt? place ∧
      (shiftBackups place number files).1.HasTextsOf files ∧
      ∀ backups, HasRoom place backups files → number + 1 ≤ backups →
        (shiftBackups place number files).2 = none ∧
          HasRoom place backups (shiftBackups place number files).1 := by
  induction number generalizing files with
  | zero => exact ⟨rfl, .refl files, fun backups hroom _ => ⟨rfl, hroom⟩⟩
  | succ number ih =>
    rw [shiftBackups]
    split
    · next fault hmove =>
      refine ⟨rfl, .refl files, fun backups hroom hbackups => ?_⟩
      obtain ⟨moved, hmoved⟩ := exists_move (hroom (number + 2) (by omega) hbackups)
        (backup place (number + 1))
      rw [hmove] at hmoved
      cases hmoved
    · next moved hmove =>
      obtain ⟨hkept, htexts, hroom⟩ := move_backup hplace hmove
      obtain ⟨ihkept, ihtexts, ihroom⟩ := ih moved
      refine ⟨ihkept.trans hkept, ihtexts.trans htexts, fun backups hbefore hbackups => ?_⟩
      exact ihroom backups (hroom backups hbefore (by omega) (by omega)) (by omega)

/-- The file has taken a line at its end, and nothing else has changed. -/
def AddsLine (file : LogFile) (line : String) (before after : FileTree) : Prop :=
  after.fileAt? file.place = some ((before.fileAt? file.place).getD "" ++ line) ∧
    ∀ other, other ≠ file.place → after.fileAt? other = before.fileAt? other

/-- The file holds a text of its own, its first backup what it held before, and no other file a text that
    is new. -/
def StartsAnew (file : LogFile) (text : String) (before after : FileTree) : Prop :=
  after.fileAt? file.place = some text ∧
    after.fileAt? (backup file.place 1) = before.fileAt? file.place ∧
    ∀ other found, other ≠ file.place → after.fileAt? other = some found →
      ∃ earlier, (earlier, found) ∈ before.files

/-- The file holds what it held before, and no file a text that is new. -/
def StaysAsIs (file : LogFile) (before after : FileTree) : Prop :=
  after.fileAt? file.place = before.fileAt? file.place ∧ after.HasTextsOf before

/-- A file that is moved aside starts anew without a text. If that is refused, it stays as it is, and it
    lacks room for its backups. -/
theorem rotate_spec (hplace : file.place ≠ []) (hopen : (files.fileAt? file.place).isSome)
    (hbackups : 0 < file.backups) :
    ((file.rotate files).2 = none ∧ file.StartsAnew "" files (file.rotate files).1) ∨
      (∃ fault, (file.rotate files).2 = some fault) ∧ ¬ HasRoom file.place file.backups.toNat files ∧
        file.StaysAsIs files (file.rotate files).1 := by
  obtain ⟨hkept, htexts, hroom⟩ := shiftBackups_spec hplace (file.backups.toNat - 1) files
  have hfits : HasRoom file.place file.backups.toNat files → _ :=
    fun h => hroom file.backups.toNat h (by omega)
  rw [rotate, if_pos hbackups]
  generalize shiftBackups file.place (file.backups.toNat - 1) files = shifted at hkept htexts hfits
  obtain ⟨shifted, fault⟩ := shifted
  dsimp only at hkept htexts hfits
  cases fault with
  | some fault =>
    refine .inr ⟨⟨fault, rfl⟩, fun h => ?_, hkept, htexts⟩
    cases (hfits h).1
  | none =>
    dsimp only
    cases hmove : shifted.move file.place (backup file.place 1) with
    | error fault =>
      refine .inr ⟨⟨fault, rfl⟩, fun h => ?_, hkept, htexts⟩
      obtain ⟨moved, hmoved⟩ := exists_move ((hfits h).2 1 le_rfl (by omega)) file.place
      rw [hmove] at hmoved
      cases hmoved
    | ok moved =>
      refine .inl ⟨rfl, ?_, ?_, fun other found hne hfound => ?_⟩
      · rw [fileAt?_append_self,
          fileAt?_move_source hmove (hkept ▸ hopen) (backup_apart hplace 1)]
        rfl
      · rw [fileAt?_append_of_ne (backup_ne _ 1), ← hkept]
        exact fileAt?_move_target hmove (hkept ▸ hopen) (apart_backup hplace 1)
      · rw [fileAt?_append_of_ne hne] at hfound
        exact (hasTextsOf_move hmove).trans htexts _ (exists_of_fileAt? hfound)

/-- A record goes once into a log file that is there, at its end or at the start of an empty one. It is
    lost only if the file is full and lacks room for its backups. -/
theorem write_spec (hplace : file.place ≠ []) (hopen : (files.fileAt? file.place).isSome) (time : String)
    (record : Log.Record) :
    ((file.write files time record).2 = none ∧
        (file.AddsLine (file.line time record) files (file.write files time record).1 ∨
          file.isFull files (file.line time record) ∧ 0 < file.backups ∧
            file.StartsAnew (file.line time record) files (file.write files time record).1)) ∨
      (∃ fault, (file.write files time record).2 = some fault) ∧
        file.isFull files (file.line time record) ∧
        ¬ HasRoom file.place file.backups.toNat files ∧
        file.StaysAsIs files (file.write files time record).1 := by
  have happended (now : FileTree) : file.AddsLine (file.line time record) now
      (now.append file.place (file.line time record)) :=
    ⟨fileAt?_append_self _ _ _, fun other hne => fileAt?_append_of_ne hne _ _⟩
  simp only [write]
  by_cases hfull : file.isFull files (file.line time record) = true
  · rw [if_pos hfull]
    by_cases hbackups : 0 < file.backups
    · have hrotate := rotate_spec hplace hopen hbackups
      generalize file.rotate files = rotated at hrotate ⊢
      obtain ⟨emptied, fault⟩ := rotated
      rcases hrotate with ⟨rfl, hempty, hfirst, hothers⟩ | ⟨⟨fault, rfl⟩, hroom, hkept⟩
      · refine .inl ⟨rfl, .inr ⟨hfull, hbackups, ?_, ?_, fun other found hne hfound => ?_⟩⟩
        · rw [(happended emptied).1, hempty, Option.getD_some, String.empty_append]
        · rw [(happended emptied).2 _ (backup_ne _ 1), hfirst]
        · rw [(happended emptied).2 other hne] at hfound
          exact hothers other found hne hfound
      · exact .inr ⟨⟨fault, rfl⟩, hfull, hroom, hkept⟩
    · rw [rotate, if_neg hbackups]
      exact .inl ⟨rfl, .inl (happended files)⟩
  · rw [if_neg hfull]
    exact .inl ⟨rfl, .inl (happended files)⟩

end Recurrence.LogFile
