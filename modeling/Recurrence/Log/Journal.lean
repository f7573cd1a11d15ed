import Recurrence.Log.Notice
import Recurrence.Settings.Basic
import Recurrence.Storage.FileTree

namespace Recurrence

/-- What consoles write to: the error output, or a stream that a set-up is given. -/
inductive Stream where
  | errors
  | given (number : Nat)
deriving DecidableEq, Repr

/-- The console of a journal. -/
structure Console where
  stream : Stream
  level : Int
  colors : Bool
deriving DecidableEq, Repr

/-- The log file of a journal. -/
structure LogFile where
  level : Int
  place : List String
  /-- Whether lines show the place that reports a record. -/
  showsPlaces : Bool
  maxBytes : Int
  backups : Int
deriving DecidableEq, Repr

/-- What a logger hands its records to. -/
inductive Handler where
  | console (console : Console)
  | file (file : LogFile)
deriving DecidableEq, Repr

/-- The loggers with the handlers of the program's own one, a console and a log file at most, and what has been
    written so far: to streams and to files. -/
structure Journal where
  /-- The levels of loggers; 0 for a logger that has none of its own. -/
  levelOf : String → Int := fun _ => 0
  handlers : List Handler := []
  textOn : Stream → String := fun _ => ""
  files : FileTree
  /-- The records that a log file has not taken. -/
  lost : List Log.Record := []

namespace LogFile

/-- The place of a numbered backup. -/
def backup (place : List String) (number : Nat) : List String :=
  let name := place.getLastD ""
  place.dropLast ++ [s!"{name}.{number}"]

/-- Moves the backups up to a number one number up, the highest first, as far as nothing is refused. -/
def shiftBackups (place : List String) : (number : Nat) → FileTree → FileTree × Option StorageFault
  | 0, files => (files, none)
  | number + 1, files =>
    match files.move (backup place (number + 1)) (backup place (number + 2)) with
    | .error fault => (files, some fault)
    | .ok moved => shiftBackups place number moved

/-- Moves a log file aside: the file and its numbered backups each go one number up, and the last backup is lost.
    Without backups the file just grows. -/
def rotate (file : LogFile) (files : FileTree) : FileTree × Option StorageFault :=
  if 0 < file.backups then
    match shiftBackups file.place (file.backups.toNat - 1) files with
    | (shifted, some fault) => (shifted, some fault)
    | (shifted, none) =>
      match shifted.move file.place (backup file.place 1) with
      | .error fault => (shifted, some fault)
      | .ok moved => (moved.append file.place "", none)
  else (files, none)

/-- Whether a line would bring the file to its greatest size. The file counts in bytes, the line in
    characters. -/
def isFull (file : LogFile) (files : FileTree) (line : String) : Bool :=
  0 < file.maxBytes &&
    file.maxBytes ≤ (((files.fileAt? file.place).getD "").utf8ByteSize + line.length : Nat)

/-- What the file takes for a record. -/
def line (file : LogFile) (time : String) (record : Log.Record) : String :=
  record.fileLine time file.showsPlaces ++ "\n"

/-- The files after a record was written. A record is not written if the file cannot be moved aside. -/
def write (file : LogFile) (files : FileTree) (time : String) (record : Log.Record) :
    FileTree × Option StorageFault :=
  let line := file.line time record
  match if file.isFull files line then file.rotate files else (files, none) with
  | (files, some fault) => (files, some fault)
  | (files, none) => (files.append file.place line, none)

end LogFile

namespace Handler

/-- The lowest level that a handler takes. -/
def level : Handler → Int
  | .console target => target.level
  | .file target => target.level

/-- The class of a handler. -/
def kind : Handler → String
  | .console _ => "StreamHandler"
  | .file _ => "RotatingFileHandler"

end Handler

namespace Journal

/-- The program's own logger. -/
def ownLogger : String := "rrulezone"

/-- The loggers of what the program is built on. -/
def thirdPartyLoggers : List String := ["dateutil", "pytz"]

/-- Whether a logger is the program's own or below it. -/
def isOwnLogger (logger : String) : Bool :=
  logger == ownLogger || "rrulezone.".toList.isPrefixOf logger.toList

/-- Gives a logger a level. -/
def setLevel (journal : Journal) (logger : String) (level : Int) : Journal :=
  { journal with
    levelOf := fun other => if other = logger then level else journal.levelOf other }

/-- The lowest level that the program's loggers look at. Without a level of its own a logger has that of
    the root. -/
def threshold (journal : Journal) : Int :=
  if journal.levelOf ownLogger = 0 then Log.warning else journal.levelOf ownLogger

/-- Adds a text to a stream. -/
def put (journal : Journal) (stream : Stream) (text : String) : Journal :=
  let whole := journal.textOn stream ++ text
  { journal with textOn := fun other => if other = stream then whole else journal.textOn other }

/-- The journal after a handler has written a record. A record that the log file does not take is lost. The stack
    trace that the program then prints on its error output names places of the program's own text and is no part
    of what `textOn` keeps. -/
def emit (journal : Journal) (time : String) (record : Log.Record) : Handler → Journal
  | .console console => journal.put console.stream (record.tintedLine console.colors ++ "\n")
  | .file file =>
    match file.write journal.files time record with
    | (files, none) => { journal with files }
    | (files, some _) => { journal with files, lost := journal.lost ++ [record] }

/-- The journal after a handler was handed a record, which it writes if its level admits it. -/
def handle (time : String) (record : Log.Record) (journal : Journal) (handler : Handler) : Journal :=
  if handler.level ≤ record.level then journal.emit time record handler else journal

/-- The journal after a record that there is no handler for: as a last resort the bare messages of warnings and
    errors go to the error output. -/
def handleLast (journal : Journal) (record : Log.Record) : Journal :=
  if Log.warning ≤ record.level then journal.put .errors (record.message ++ "\n") else journal

/-- The journal after a record. Records of other loggers have nowhere to go. -/
def write (journal : Journal) (time : String) (record : Log.Record) : Journal :=
  if isOwnLogger record.logger && decide (journal.threshold ≤ record.level) then
    if journal.handlers.isEmpty then journal.handleLast record
    else journal.handlers.foldl (handle time record) journal
  else journal

/-- The journal after notices. -/
def report (journal : Journal) (time : String) (notices : List Notice) : Journal :=
  notices.foldl (fun journal notice => journal.write time notice.record) journal

/-- Attaches a handler, behind the others. -/
def attach (journal : Journal) (handler : Handler) : Journal :=
  { journal with handlers := journal.handlers ++ [handler] }

/-- Detaches a handler. -/
def detach (journal : Journal) (handler : Handler) : Journal :=
  { journal with handlers := journal.handlers.erase handler }

/-- Detaches the handlers one after the other. Those to detach are listed before the first is gone. -/
def detachAll (journal : Journal) : Journal := journal.handlers.foldl detach journal

/-- The level that a setting asks for. -/
def levelFor (settings : Settings) (setting : LogSetting) : Except SettingsFault Int :=
  match Log.levelOfValue? (settings.log setting) with
  | some level => .ok level
  | none => .error .levelNotText

/-- The console on a stream that settings ask for. -/
def consoleFor (settings : Settings) (stream : Stream) (supportsColor : Bool) :
    Except SettingsFault (Option Console) :=
  if (settings.log .consoleEnabled).isTruthy then do
    let level ← levelFor settings .consoleLevel
    return some ⟨stream, level, (settings.log .consoleColors).isTruthy && supportsColor⟩
  else .ok none

/-- The number that a setting is; a truth value counts as 0 or 1. -/
def numberFor? (settings : Settings) (setting : LogSetting) : Option Int :=
  match settings.log setting with
  | .int number => some number
  | .bool value => some (if value then 1 else 0)
  | _ => none

/-- The size of a log file that settings allow. One that is infinite or no number is none at all. -/
def greatestSize? (settings : Settings) : Option Int :=
  match settings.log .maxLogBytes with
  | .real number => some number.ceiling
  | .foreign (.infinity _) | .foreign .notNumber => some 0
  | _ => numberFor? settings .maxLogBytes

/-- The path of the log file that settings ask for, in their folder of log files. -/
def logPath (settings : Settings) (files : FileTree) (folder : Path) : Path :=
  Path.absolute files.current (folder.child ((settings.log .filePrefix).plain ++ ".log"))

/-- Opens the log file that settings ask for in their folder of log files, which is made if it does not
    exist: the files afterwards, and the path and the place of the file. -/
def openFile (settings : Settings) (files : FileTree) (folder : Path) :
    Except SettingsFault (FileTree × Path × List String) := do
  let files ← (files.makeFolder folder).mapError .storage
  if (greatestSize? settings).isNone then throw .logNotUsable
  let path := logPath settings files folder
  let (files, place) ← (files.openFile path).mapError .storage
  return (files, path, place)

/-- The log file that settings ask for at a place, unless its level cannot be used. -/
def fileFor (settings : Settings) (place : List String) : Except SettingsFault LogFile :=
  (levelFor settings .fileLevel).map fun level =>
    { level
      place
      showsPlaces := (settings.log .includeFunctionNames).isTruthy
      maxBytes := (greatestSize? settings).getD 0
      backups := (numberFor? settings .maxLogFiles).getD 0 }

/-- The console step of a set-up. -/
def withConsole (journal : Journal) (console : Option Console) : Journal :=
  match console with
  | some console => journal.attach (.console console)
  | none => journal

/-- Gives all loggers of what the program is built on a level. -/
def setThirdPartyLevel (journal : Journal) (level : Int) : Journal :=
  thirdPartyLoggers.foldl (fun journal logger => journal.setLevel logger level) journal

/-- The last step of a set-up. -/
def finish (journal : Journal) (settings : Settings) : Journal × Option SettingsFault :=
  match levelFor settings .thirdPartyLevel with
  | .error fault => (journal, some fault)
  | .ok level => (journal.setThirdPartyLevel level, none)

/-- The log file step of a set-up. -/
def withFile (journal : Journal) (settings : Settings) (time : String) :
    Journal × Option SettingsFault :=
  if (settings.log .fileEnabled).isTruthy then
    match settings.logFolder.bind (openFile settings journal.files) with
    | .error fault => (journal, some fault)
    | .ok (files, path, place) =>
      match fileFor settings place with
      | .error fault => ({ journal with files }, some fault)
      | .ok file =>
        let opened := { journal with files }.attach (.file file)
        (opened.report time [.logFile path.text]).finish settings
  else journal.finish settings

/-- The first step of a set-up: the program's loggers look at everything from details on, and nothing is
    attached. -/
def clear (journal : Journal) : Journal := (journal.setLevel ownLogger Log.debug).detachAll

/-- Sets the journal up anew, with a console on a stream. A fault leaves it with what was set up before
    the fault. -/
def setUp (journal : Journal) (settings : Settings) (stream : Stream) (supportsColor : Bool)
    (time : String) : Journal × Option SettingsFault :=
  match consoleFor settings stream supportsColor with
  | .error fault => (journal.clear, some fault)
  | .ok console => (journal.clear.withConsole console).withFile settings time

/-- Whether variables allow colours on a terminal. -/
def allowsColor (environment : List (String × String)) : Bool :=
  let valueOf name := (environment.reverse.find? (·.1 == name)).map (·.2)
  (valueOf "NO_COLOR").isNone &&
    ((valueOf "TERM").getD "").toList.map Char.toLower != "dumb".toList

end Journal

end Recurrence
