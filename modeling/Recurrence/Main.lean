import Recurrence.CommandLine.Reach
import Recurrence.Zone.Catalogue
import Std.Time.Zoned

namespace Recurrence

/-- The variables of the process. -/
def readVariables : IO Variables := do
  let bytes ← try IO.FS.readBinFile "/proc/self/environ" catch _ => pure ByteArray.empty
  let text := (String.fromUTF8? bytes).getD ""
  return (text.splitOn "\x00").filterMap fun entry =>
    match entry.splitOn "=" with
    | name :: rest@(_ :: _) => some (name, "=".intercalate rest)
    | _ => none

/-- The path of a place. -/
def placeText (place : List String) : String := Path.text ⟨"/", place⟩

/-- What is found at a path. -/
inductive Found where
  | file (text : String)
  | folder
  | nothing

/-- Looks at a path. Reading a folder fails with a code of its own. -/
def look (path : String) : IO Found := do
  try
    let text ← IO.FS.readFile path
    return .file text
  catch error =>
    match error with
    | .inappropriateType _ 21 _ => return .folder
    | _ => return .nothing

/-- The home folders of all users. -/
def readHomes : IO (List (String × Path)) := do
  match ← look "/etc/passwd" with
  | .file text => return (text.splitOn "\n").filterMap fun line =>
      match line.splitOn ":" with
      | [name, _, _, _, _, home, _] => some (name, .ofText home)
      | _ => none
  | _ => return []

/-- Looks at a place and at all folders on the way. -/
def gatherPlace (files : FileTree) (place : List String) : IO FileTree := do
  let mut files := files
  for count in [1:place.length + 1] do
    let here := place.take count
    if !files.isFolder here && (files.fileAt? here).isNone then
      match ← look (placeText here) with
      | .file text => files := files.write here text
      | .folder => files := files.addFolder here
      | .nothing => pure ()
  return files

/-- Looks at the files that the run may look at, each round by what the rounds before have shown. -/
def gather (words : List String) : (rounds : Nat) → Surroundings → IO Surroundings
  | 0, surroundings => return surroundings
  | rounds + 1, surroundings => do
    let mut files := surroundings.files
    for path in reachOf surroundings words do
      files ← gatherPlace files (Path.absolute files.current path).parts
    gather words rounds { surroundings with files }

/-- Carries out what has changed between two trees of files. -/
def carryOut (before after : FileTree) : IO Unit := do
  for (place, text) in after.files do
    if before.fileAt? place != some text then
      IO.FS.createDirAll (placeText place.dropLast)
      IO.FS.writeFile (placeText place) text
  for (place, _) in before.files do
    if (after.fileAt? place).isNone then
      IO.FS.removeFile (placeText place)

/-- The local time, as log files write it. -/
def readTime : IO String := do
  let now ← Std.Time.PlainDateTime.now
  let two (number : Int) : String := Text.padded 2 number.toNat
  let date := Text.padded 4 now.year.toInt.toNat ++ "-" ++ two now.month.val ++ "-" ++ two now.day.val
  return date ++ " " ++ two now.hour.val ++ ":" ++ two now.minute.val ++ ":" ++ two now.second.val

end Recurrence

open Recurrence in
/-- Runs the command line: looks at what the run reads and carries out what it has written. Everything that is
    decided is decided by `runWords`. -/
def main (words : List String) : IO UInt32 := do
  let environment ← readVariables
  let folder ← IO.currentDir
  let current := Path.ofText folder.toString
  let homes ← readHomes
  let files : FileTree := { current, folders := [current.parts] }
  let opening : Surroundings := { environment, files, homes }
  let surroundings ← gather words 3 opening
  let time ← readTime
  let errors ← IO.getStderr
  let isTerminal ← errors.isTty
  let supportsColor := isTerminal && Journal.allowsColor environment
  let outcome := runWords .listed surroundings supportsColor time words
  carryOut surroundings.files outcome.files
  IO.print outcome.output
  IO.eprint outcome.errors
  match outcome.exit with
  | .ok code => return code.toUInt32
  | .error failure => do
    IO.eprintln (programName ++ ": " ++ failure.message)
    return 1
