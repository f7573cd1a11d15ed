import Recurrence.Proofs.Log.Rotation

namespace Recurrence

/-- A call that sets a journal up. -/
structure SetUpCall where
  settings : Settings
  stream : Stream
  supportsColor : Bool
  time : String

namespace Journal

variable {journal ready : Journal} {settings : Settings} {stream : Stream} {supportsColor : Bool}
  {time : String} {call : SetUpCall} {console : Option Console} {file : Option LogFile}

theorem textOn_put (journal : Journal) (stream other : Stream) (text : String) :
    (journal.put stream text).textOn other =
      journal.textOn other ++ if other = stream then text else "" := by
  by_cases hother : other = stream
  · simp [put, hother]
  · simp [put, hother]

/-- A journal with the handlers and the levels of another. -/
structure KeepsSetUp (before after : Journal) : Prop where
  handlers : after.handlers = before.handlers
  levelOf : after.levelOf = before.levelOf

theorem KeepsSetUp.refl (journal : Journal) : KeepsSetUp journal journal := ⟨rfl, rfl⟩

theorem KeepsSetUp.trans {first second third : Journal} (hfirst : KeepsSetUp first second)
    (hsecond : KeepsSetUp second third) : KeepsSetUp first third :=
  ⟨hsecond.handlers.trans hfirst.handlers, hsecond.levelOf.trans hfirst.levelOf⟩

theorem keepsSetUp_handle (time : String) (record : Log.Record) (journal : Journal) (handler : Handler) :
    KeepsSetUp journal (handle time record journal handler) := by
  unfold handle
  split
  · cases handler with
    | console console => exact ⟨rfl, rfl⟩
    | file file =>
      simp only [emit]
      split <;> exact ⟨rfl, rfl⟩
  · exact .refl journal

theorem keepsSetUp_write (time : String) (record : Log.Record) (journal : Journal) :
    KeepsSetUp journal (journal.write time record) := by
  unfold write
  split
  · split
    · unfold handleLast
      split <;> exact ⟨rfl, rfl⟩
    · exact List.foldlRecOn _ _ (.refl journal) fun found hfound handler _ =>
        hfound.trans (keepsSetUp_handle time record found handler)
  · exact .refl journal

theorem foldl_erase_self (handlers : List Handler) : handlers.foldl List.erase handlers = [] := by
  induction handlers with
  | nil => rfl
  | cons handler handlers ih => rwa [List.foldl_cons, List.erase_cons_head]

theorem foldl_detach (handlers : List Handler) (journal : Journal) :
    handlers.foldl detach journal = { journal with handlers := handlers.foldl List.erase journal.handlers } := by
  induction handlers generalizing journal with
  | nil => rfl
  | cons handler handlers ih => exact ih (journal.detach handler)

/-- Detaching one handler after the other, as they were listed at first, leaves none. -/
theorem detachAll_eq (journal : Journal) : journal.detachAll = { journal with handlers := [] } := by
  rw [detachAll, foldl_detach, foldl_erase_self]

theorem clear_eq (journal : Journal) :
    journal.clear = { journal.setLevel ownLogger Log.debug with handlers := [] } :=
  detachAll_eq _

theorem levelOf_foldl_setLevel (level : Int) (loggers : List String) (journal : Journal) (logger : String) :
    (loggers.foldl (fun journal logger => journal.setLevel logger level) journal).levelOf logger =
      if logger ∈ loggers then level else journal.levelOf logger := by
  induction loggers generalizing journal with
  | nil => simp
  | cons first loggers ih =>
    rw [List.foldl_cons, ih]
    by_cases hfirst : logger = first
    · simp [setLevel, hfirst]
    · simp [setLevel, hfirst]

theorem levelOf_setThirdPartyLevel (journal : Journal) (level : Int) (logger : String) :
    (journal.setThirdPartyLevel level).levelOf logger =
      if logger ∈ thirdPartyLoggers then level else journal.levelOf logger :=
  levelOf_foldl_setLevel level thirdPartyLoggers journal logger

/-- Giving loggers a level changes only levels. -/
theorem setThirdPartyLevel_eq (journal : Journal) (level : Int) :
    journal.setThirdPartyLevel level =
      { journal with levelOf := (journal.setThirdPartyLevel level).levelOf } := rfl

/-- What the log file step of a set-up does: nothing, or it opens and attaches a log file and tells so. -/
inductive OpensFile (settings : Settings) (time : String) (journal : Journal) :
    Option LogFile → Journal → Prop where
  | skipped (hfile : (settings.log .fileEnabled).isTruthy = false) :
      OpensFile settings time journal none journal
  | opened {folder path : Path} {files : FileTree} {file : LogFile}
      (hfile : (settings.log .fileEnabled).isTruthy = true) (hfolder : settings.logFolder = .ok folder)
      (hopen : openFile settings journal.files folder = .ok (files, path, file.place))
      (hfor : fileFor settings file.place = .ok file) :
      OpensFile settings time journal (some file)
        (({ journal with files }.attach (.file file)).write time (Notice.logFile path.text).record)

theorem finish_eq_ok_iff : journal.finish settings = (ready, none) ↔
    ∃ level, levelFor settings .thirdPartyLevel = .ok level ∧ ready = journal.setThirdPartyLevel level := by
  unfold finish
  cases levelFor settings .thirdPartyLevel <;> simp [eq_comm]

theorem place_of_fileFor {place : List String} {file : LogFile} (hfile : fileFor settings place = .ok file) :
    file.place = place := by
  obtain ⟨level, -, rfl⟩ := map_eq_ok_iff.1 hfile
  rfl

theorem withFile_eq_ok_iff : journal.withFile settings time = (ready, none) ↔
    ∃ file opened, OpensFile settings time journal file opened ∧
      opened.finish settings = (ready, none) := by
  unfold withFile
  split
  · next henabled =>
    constructor
    · intro hready
      split at hready
      · cases hready
      · next files path place hopen =>
        obtain ⟨folder, hfolder, hopen⟩ := bind_eq_ok_iff.1 hopen
        split at hready
        · cases hready
        · next file hfor =>
          obtain rfl := place_of_fileFor hfor
          exact ⟨some file, _, .opened henabled hfolder hopen hfor, hready⟩
    · rintro ⟨file, opened, hopened, hready⟩
      cases hopened with
      | skipped hfile =>
        rw [henabled] at hfile
        cases hfile
      | opened _ hfolder hopen hfor =>
        rw [hfolder]
        simp only [Except.bind, hopen, hfor]
        exact hready
  · next hdisabled =>
    constructor
    · exact fun hready => ⟨none, journal, .skipped (Bool.eq_false_iff.2 hdisabled), hready⟩
    · rintro ⟨file, opened, hopened, hready⟩
      cases hopened with
      | skipped => exact hready
      | opened henabled => exact absurd henabled hdisabled

/-- What a set-up that succeeds does. -/
theorem setUp_eq_ok_iff : journal.setUp settings stream supportsColor time = (ready, none) ↔
    ∃ console file opened, consoleFor settings stream supportsColor = .ok console ∧
      OpensFile settings time (journal.clear.withConsole console) file opened ∧
      opened.finish settings = (ready, none) := by
  unfold setUp
  cases consoleFor settings stream supportsColor with
  | error fault => simp
  | ok console =>
    rw [withFile_eq_ok_iff]
    simp

end Journal

end Recurrence
