import Recurrence.Proofs.Log.Delivery

namespace Recurrence

/-- What can happen to a journal. -/
inductive LogEvent where
  | setUp (call : SetUpCall)
  | record (time : String) (record : Log.Record)

namespace LogEvent

/-- Whether an event is a record. -/
def isRecord : LogEvent → Bool
  | setUp _ => false
  | record _ _ => true

end LogEvent

namespace Journal

/-- The journal after an event, unless it is a set-up that fails. -/
def after (journal : Journal) : LogEvent → Except SettingsFault Journal
  | .setUp call =>
    match journal.setUp call.settings call.stream call.supportsColor call.time with
    | (ready, none) => .ok ready
    | (_, some fault) => .error fault
  | .record time record => .ok (journal.write time record)

/-- The journal after events. -/
def run (journal : Journal) (events : List LogEvent) : Except SettingsFault Journal :=
  events.foldlM after journal

variable {journal base alone whole ready : Journal} {settings : Settings} {stream : Stream}
  {supportsColor : Bool} {time : String} {call : SetUpCall} {console : Option Console}
  {file : Option LogFile}

/-- A journal that has written what one has written before, and then what another one has. -/
structure WritesAfter (base alone whole : Journal) : Prop where
  textOn : ∀ stream, whole.textOn stream = base.textOn stream ++ alone.textOn stream
  files : whole.files = alone.files
  lost : whole.lost = base.lost ++ alone.lost

/-- A journal that has written so and will go on as the other one. -/
structure Continues (base alone whole : Journal) : Prop extends WritesAfter base alone whole where
  handlers : whole.handlers = alone.handlers
  level : whole.levelOf ownLogger = alone.levelOf ownLogger

theorem WritesAfter.put (h : WritesAfter base alone whole) (stream : Stream) (text : String) :
    WritesAfter base (alone.put stream text) (whole.put stream text) where
  textOn other := by rw [textOn_put, textOn_put, h.textOn, String.append_assoc]
  files := h.files
  lost := h.lost

theorem WritesAfter.handle (h : WritesAfter base alone whole) (time : String) (record : Log.Record)
    (handler : Handler) : WritesAfter base (handle time record alone handler)
      (Journal.handle time record whole handler) := by
  unfold Journal.handle
  split
  · cases handler with
    | console console => exact h.put _ _
    | file file =>
      simp only [emit, h.files]
      split
      · exact ⟨h.textOn, rfl, h.lost⟩
      · exact ⟨h.textOn, rfl, by simp only [h.lost, List.append_assoc]⟩
  · exact h

theorem WritesAfter.foldl_handle (h : WritesAfter base alone whole) (time : String) (record : Log.Record)
    (handlers : List Handler) : WritesAfter base (handlers.foldl (Journal.handle time record) alone)
      (handlers.foldl (Journal.handle time record) whole) := by
  induction handlers generalizing alone whole with
  | nil => exact h
  | cons handler handlers ih => exact ih (h.handle time record handler)

theorem WritesAfter.handleLast (h : WritesAfter base alone whole) (record : Log.Record) :
    WritesAfter base (alone.handleLast record) (whole.handleLast record) := by
  unfold Journal.handleLast
  split
  · exact h.put _ _
  · exact h

/-- A record keeps the one journal on the way of the other. -/
theorem Continues.write (h : Continues base alone whole) (time : String) (record : Log.Record) :
    Continues base (alone.write time record) (whole.write time record) := by
  have halone := keepsSetUp_write time record alone
  have hwhole := keepsSetUp_write time record whole
  have htexts : WritesAfter base (alone.write time record) (whole.write time record) := by
    have hthreshold : whole.threshold = alone.threshold := by rw [threshold, threshold, h.level]
    simp only [Journal.write, hthreshold, h.handlers]
    split_ifs
    · exact h.toWritesAfter.handleLast record
    · exact h.toWritesAfter.foldl_handle time record _
    · exact h.toWritesAfter
  refine ⟨htexts, ?_, ?_⟩
  · rw [hwhole.handlers, halone.handlers, h.handlers]
  · rw [hwhole.levelOf, halone.levelOf, h.level]

theorem WritesAfter.clear (h : WritesAfter base alone whole) (console : Option Console) :
    Continues base (alone.clear.withConsole console) (whole.clear.withConsole console) := by
  rw [clear_eq, clear_eq]
  cases console with
  | none => exact ⟨⟨h.textOn, h.files, h.lost⟩, rfl, by simp [withConsole, setLevel]⟩
  | some console => exact ⟨⟨h.textOn, h.files, h.lost⟩, rfl, by simp [withConsole, attach, setLevel]⟩

theorem Continues.opensFile (h : Continues base alone whole) {opened : Journal}
    (hopens : OpensFile settings time whole file opened) :
    ∃ done, OpensFile settings time alone file done ∧ Continues base done opened := by
  cases hopens with
  | skipped hfile => exact ⟨alone, .skipped hfile, h⟩
  | @opened folder path files file hfile hfolder hopen hfor =>
    have hattached : Continues base ({ alone with files }.attach (.file file))
        ({ whole with files }.attach (.file file)) :=
      ⟨⟨h.textOn, rfl, h.lost⟩, by simp only [attach, h.handlers], h.level⟩
    exact ⟨_, .opened hfile hfolder (h.files ▸ hopen) hfor, hattached.write time _⟩

theorem Continues.setThirdPartyLevel (h : Continues base alone whole) (level : Int) :
    Continues base (alone.setThirdPartyLevel level) (whole.setThirdPartyLevel level) := by
  rw [setThirdPartyLevel_eq alone, setThirdPartyLevel_eq whole]
  refine ⟨⟨h.textOn, h.files, h.lost⟩, h.handlers, ?_⟩
  simp only [levelOf_setThirdPartyLevel, h.level]

/-- A set-up puts a journal on the way of any other one that finds the same files. -/
theorem WritesAfter.setUp (h : WritesAfter base alone whole)
    (hready : whole.setUp settings stream supportsColor time = (ready, none)) :
    ∃ done, alone.setUp settings stream supportsColor time = (done, none) ∧ Continues base done ready := by
  obtain ⟨console, file, opened, hconsole, hopens, hfinish⟩ := setUp_eq_ok_iff.1 hready
  obtain ⟨level, hlevel, rfl⟩ := finish_eq_ok_iff.1 hfinish
  obtain ⟨done, hdone, hcontinues⟩ := (h.clear console).opensFile hopens
  exact ⟨done.setThirdPartyLevel level,
    setUp_eq_ok_iff.2 ⟨console, file, done, hconsole, hdone, finish_eq_ok_iff.2 ⟨level, hlevel, rfl⟩⟩,
    hcontinues.setThirdPartyLevel level⟩

theorem after_setUp_eq_ok_iff : journal.after (.setUp call) = .ok ready ↔
    journal.setUp call.settings call.stream call.supportsColor call.time = (ready, none) := by
  simp only [after]
  split
  · next found hsetUp => simp [hsetUp]
  · next found fault hsetUp => simp [hsetUp]

/-- Whatever happens afterwards, the one journal stays on the way of the other. -/
theorem Continues.run (h : Continues base alone whole) {events : List LogEvent} {journal : Journal}
    (hrun : whole.run events = .ok journal) :
    ∃ done, alone.run events = .ok done ∧ Continues base done journal := by
  induction events generalizing alone whole with
  | nil =>
    cases hrun
    exact ⟨alone, rfl, h⟩
  | cons event events ih =>
    obtain ⟨next, hnext, hrun⟩ := bind_eq_ok_iff.1 hrun
    have hstep : ∃ done, alone.after event = .ok done ∧ Continues base done next := by
      cases event with
      | setUp call =>
        obtain ⟨done, hdone, hcontinues⟩ := h.toWritesAfter.setUp (after_setUp_eq_ok_iff.1 hnext)
        exact ⟨done, after_setUp_eq_ok_iff.2 hdone, hcontinues⟩
      | record time record =>
        cases hnext
        exact ⟨_, rfl, h.write time record⟩
    obtain ⟨done, hdone, hcontinues⟩ := hstep
    obtain ⟨last, hlast, hfinal⟩ := ih hcontinues hrun
    exact ⟨last, bind_eq_ok_iff.2 ⟨done, hdone, hlast⟩, hfinal⟩

/-- Records leave a journal with what it hands records to, and its loggers with their levels. -/
theorem HandsTo.run (h : HandsTo journal console file) {events : List LogEvent}
    (hrecords : ∀ event ∈ events, event.isRecord = true) {last : Journal} (hrun : journal.run events = .ok last) :
    HandsTo last console file ∧ last.levelOf = journal.levelOf := by
  induction events generalizing journal with
  | nil =>
    cases hrun
    exact ⟨h, rfl⟩
  | cons event events ih =>
    obtain ⟨next, hnext, hrun⟩ := bind_eq_ok_iff.1 hrun
    cases event with
    | setUp call => cases hrecords _ List.mem_cons_self
    | record time record =>
      cases hnext
      obtain ⟨hlast, hlevels⟩ := ih (h.write time record)
        (fun other hother => hrecords other (List.mem_cons_of_mem _ hother)) hrun
      exact ⟨hlast, hlevels.trans (keepsSetUp_write time record journal).levelOf⟩

end Journal

end Recurrence
