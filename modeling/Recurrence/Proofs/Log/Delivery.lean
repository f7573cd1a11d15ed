import Recurrence.Proofs.Log.SetUp

namespace Recurrence.Journal

variable {journal : Journal} {settings : Settings} {stream : Stream} {supportsColor : Bool} {time : String}
  {record : Log.Record} {console : Option Console} {file : Option LogFile}

/-- What a record leaves on a stream: its line, if a console writes there and admits it, or its bare message,
    if there is no handler and it warns. -/
def shown (console : Option Console) (file : Option LogFile) (record : Log.Record) (stream : Stream) :
    String :=
  match console, file with
  | some target, _ =>
    if stream = target.stream ∧ target.level ≤ record.level then record.tintedLine target.colors ++ "\n"
    else ""
  | none, some _ => ""
  | none, none =>
    if stream = .errors ∧ Log.warning ≤ record.level then record.message ++ "\n" else ""

/-- A record has gone once into a log file, at its end or, after it was full, at its start, or it is lost
    because the file is full and lacks room for its backups. -/
def TakesRecord (target : LogFile) (time : String) (record : Log.Record) (before after : Journal) : Prop :=
  after.lost = before.lost ∧
      (target.AddsLine (target.line time record) before.files after.files ∨
        target.isFull before.files (target.line time record) ∧ 0 < target.backups ∧
          target.StartsAnew (target.line time record) before.files after.files) ∨
    after.lost = before.lost ++ [record] ∧ target.isFull before.files (target.line time record) ∧
      ¬ LogFile.HasRoom target.place target.backups.toNat before.files ∧
      target.StaysAsIs before.files after.files

/-- A record has gone once to the console and to the log file if their levels admit it, and nowhere else. -/
structure Delivered (console : Option Console) (file : Option LogFile) (time : String)
    (record : Log.Record) (before after : Journal) : Prop where
  textOn : ∀ stream, after.textOn stream = before.textOn stream ++ shown console file record stream
  taken : ∀ target, file = some target → target.level ≤ record.level →
    TakesRecord target time record before after
  spared : (∀ target, file = some target → record.level < target.level) →
    after.files = before.files ∧ after.lost = before.lost

/-- A set-up journal hands its records to a console and to a log file, which is there. -/
structure HandsTo (journal : Journal) (console : Option Console) (file : Option LogFile) : Prop where
  handlers : journal.handlers = console.toList.map .console ++ file.toList.map .file
  level : journal.levelOf ownLogger = Log.debug
  isOpen : ∀ target, file = some target →
    target.place ≠ [] ∧ (journal.files.fileAt? target.place).isSome

theorem textOn_handle_console (time : String) (record : Log.Record) (journal : Journal) (target : Console)
    (stream : Stream) : (handle time record journal (.console target)).textOn stream =
      journal.textOn stream ++ shown (some target) file record stream := by
  by_cases hlevel : target.level ≤ record.level
  · simp [handle, Handler.level, hlevel, emit, textOn_put, shown]
  · simp [handle, Handler.level, hlevel, shown]

theorem handle_console (time : String) (record : Log.Record) (journal : Journal) (target : Console) :
    (handle time record journal (.console target)).files = journal.files ∧
      (handle time record journal (.console target)).lost = journal.lost := by
  unfold handle
  split <;> exact ⟨rfl, rfl⟩

theorem textOn_handle_file (time : String) (record : Log.Record) (journal : Journal) (target : LogFile) :
    (handle time record journal (.file target)).textOn = journal.textOn := by
  unfold handle
  split
  · simp only [emit]
    split <;> rfl
  · rfl

theorem handle_of_le {handler : Handler} (hlevel : handler.level ≤ record.level) (time : String)
    (journal : Journal) : handle time record journal handler = journal.emit time record handler :=
  if_pos hlevel

theorem handle_of_lt {handler : Handler} (hlevel : record.level < handler.level) (time : String)
    (journal : Journal) : handle time record journal handler = journal :=
  if_neg (Int.not_le.2 hlevel)

theorem takesRecord_handle {target : LogFile} (hplace : target.place ≠ [])
    (hopen : (journal.files.fileAt? target.place).isSome) (hlevel : target.level ≤ record.level)
    (time : String) :
    TakesRecord target time record journal (handle time record journal (.file target)) := by
  have hwrite := LogFile.write_spec hplace hopen time record
  have hadmits : (Handler.file target).level ≤ record.level := hlevel
  rw [handle_of_le hadmits, emit]
  generalize target.write journal.files time record = written at hwrite ⊢
  obtain ⟨files, fault⟩ := written
  rcases hwrite with ⟨rfl, htaken⟩ | ⟨⟨fault, rfl⟩, hlost⟩
  · exact .inl ⟨rfl, htaken⟩
  · exact .inr ⟨rfl, hlost⟩

/-- What a log file that is there gets of a record is delivered, by whatever it was handed on. -/
theorem delivered_handle_file {target : LogFile} {middle : Journal} (hplace : target.place ≠ [])
    (hopen : (journal.files.fileAt? target.place).isSome) (hfiles : middle.files = journal.files)
    (hlost : middle.lost = journal.lost) (htexts : ∀ stream, middle.textOn stream =
      journal.textOn stream ++ shown console (some target) record stream) (time : String) :
    Delivered console (some target) time record journal (handle time record middle (.file target)) where
  textOn stream := by rw [textOn_handle_file, htexts]
  taken found hfound hlevel := by
    obtain rfl : target = found := Option.some.inj hfound
    have htaken := takesRecord_handle hplace (hfiles ▸ hopen) hlevel time
    rwa [TakesRecord, hfiles, hlost] at htaken
  spared hspared := by
    rw [handle_of_lt (hspared target rfl)]
    exact ⟨hfiles, hlost⟩

theorem HandsTo.threshold_eq (h : HandsTo journal console file) : journal.threshold = Log.debug := by
  rw [threshold, h.level]
  rfl

/-- Without a handler the last resort delivers. -/
theorem delivered_handleLast (time : String) (record : Log.Record) (journal : Journal) :
    Delivered none none time record journal (journal.handleLast record) := by
  by_cases hwarns : Log.warning ≤ record.level
  · rw [handleLast, if_pos hwarns]
    exact ⟨fun stream => by simp [textOn_put, shown, hwarns], fun _ => nofun, fun _ => ⟨rfl, rfl⟩⟩
  · rw [handleLast, if_neg hwarns]
    exact ⟨fun stream => by simp [shown, hwarns], fun _ => nofun, fun _ => ⟨rfl, rfl⟩⟩

/-- Records of details and above are delivered. -/
theorem HandsTo.delivered (h : HandsTo journal console file) (hown : isOwnLogger record.logger = true)
    (hlevel : Log.debug ≤ record.level) (time : String) :
    Delivered console file time record journal (journal.write time record) := by
  have hadmitted : (isOwnLogger record.logger && decide (journal.threshold ≤ record.level)) = true := by
    simp [hown, h.threshold_eq, hlevel]
  rw [write, if_pos hadmitted, h.handlers]
  cases file with
  | none =>
    cases console with
    | none => exact delivered_handleLast time record journal
    | some target =>
      obtain ⟨hfiles, hlost⟩ := handle_console time record journal target
      exact ⟨textOn_handle_console time record journal target, fun _ => nofun, fun _ => ⟨hfiles, hlost⟩⟩
  | some target =>
    obtain ⟨hplace, hopen⟩ := h.isOpen target rfl
    cases console with
    | none =>
      exact delivered_handle_file hplace hopen rfl rfl (fun _ => (String.append_empty).symm) time
    | some shownOn =>
      obtain ⟨hfiles, hlost⟩ := handle_console time record journal shownOn
      exact delivered_handle_file hplace hopen hfiles hlost
        (textOn_handle_console time record journal shownOn) time

/-- Records below details go nowhere. -/
theorem HandsTo.write_of_lt (h : HandsTo journal console file) (hlevel : record.level < Log.debug)
    (time : String) : journal.write time record = journal := by
  apply if_neg
  simp [h.threshold_eq, hlevel]

theorem write_of_not_own (hown : ¬ isOwnLogger record.logger = true) (time : String) (journal : Journal) :
    journal.write time record = journal := by
  apply if_neg
  simp [hown]

/-- A log file that is there is there after a record was delivered. -/
theorem Delivered.isSome_fileAt? {target : LogFile} {after : Journal}
    (h : Delivered console (some target) time record journal after)
    (hopen : (journal.files.fileAt? target.place).isSome) :
    (after.files.fileAt? target.place).isSome := by
  by_cases hlevel : target.level ≤ record.level
  · rcases h.taken target rfl hlevel with ⟨-, hadded | ⟨-, -, hanew⟩⟩ | ⟨-, -, -, hkept⟩
    · rw [hadded.1]
      rfl
    · rw [hanew.1]
      rfl
    · rwa [hkept.1]
  · have hspared := h.spared fun found hfound => by
      rw [← Option.some.inj hfound]
      exact Int.not_le.1 hlevel
    rwa [hspared.1]

/-- A record leaves a journal with what it hands records to. -/
theorem HandsTo.write (h : HandsTo journal console file) (time : String) (record : Log.Record) :
    HandsTo (journal.write time record) console file := by
  have hkeeps := keepsSetUp_write time record journal
  refine ⟨hkeeps.handlers.trans h.handlers, by rw [hkeeps.levelOf, h.level], fun target htarget => ?_⟩
  obtain ⟨hplace, hopen⟩ := h.isOpen target htarget
  refine ⟨hplace, ?_⟩
  by_cases hown : isOwnLogger record.logger = true
  · by_cases hlevel : Log.debug ≤ record.level
    · subst htarget
      exact (h.delivered hown hlevel time).isSome_fileAt? hopen
    · rwa [h.write_of_lt (Int.not_le.1 hlevel)]
  · rwa [write_of_not_own hown]

theorem HandsTo.setThirdPartyLevel (h : HandsTo journal console file) (level : Int) :
    HandsTo (journal.setThirdPartyLevel level) console file := by
  rw [setThirdPartyLevel_eq]
  refine ⟨h.handlers, ?_, h.isOpen⟩
  rw [levelOf_setThirdPartyLevel, if_neg (by decide), h.level]

end Recurrence.Journal
