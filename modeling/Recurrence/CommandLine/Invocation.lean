import Recurrence.CommandLine.Grammar
import Recurrence.Settings.Overrides
import Recurrence.Text.Numeral

namespace Recurrence

open CommandLine

/-- What a command does. -/
inductive CommandKind where
  | expand
  | parse
  | validate
  | format
deriving DecidableEq, Repr

namespace CommandKind

/-- All commands, in the order in which they are offered. -/
def all : List CommandKind := [.expand, .parse, .validate, .format]

/-- The name of a command. -/
def name : CommandKind → String
  | .expand => "expand"
  | .parse => "parse"
  | .validate => "validate"
  | .format => "format"

/-- The command with a name. -/
def ofName? (text : String) : Option CommandKind := all.find? (·.name == text)

end CommandKind

/-- A command with what it works on. -/
inductive Command where
  | expand (text : String) (zone : Option String) (time : String) (limit : Option Int)
  | parse (text : String)
  | validate (text : String)
  | format (text : String)
deriving DecidableEq, Repr

/-- What a command does. -/
def Command.kind : Command → CommandKind
  | .expand .. => .expand
  | .parse _ => .parse
  | .validate _ => .validate
  | .format _ => .format

/-- What is asked for on a command line. -/
structure Invocation where
  config : Option Path
  log : LogOptions
  command : Command

/-- Why a command line leads to no command. -/
inductive Early where
  | refused (program : String) (refusal : Refusal)
  | version
  | help

/-- A command line that was not read to its end, by the program or by one of its commands. -/
def Early.ofHalt (program : String) : Halt → Early
  | .refused refusal => .refused program refusal
  | .version => .version
  | .help => .help

/-- The name of the program. -/
def programName : String := "rrulezone"

/-- Options of the program. -/
inductive ProgramOption where
  | help
  | version
  | config
  | logLevel
  | verbose
  | quiet
  | logFolder
  | noColors
deriving DecidableEq, Repr

/-- Options of a command. -/
inductive CommandOption where
  | help
  | zone
  | time
  | limit
deriving DecidableEq, Repr

/-- The log levels that can be asked for. -/
def offeredLevels : List String := ["DEBUG", "VERBOSE", "INFO", "WARNING", "ERROR", "CRITICAL"]

/-- Options of the program, and the words of the command. -/
structure ProgramDraft where
  config : Option Path := none
  log : LogOptions := {}
  words : List String := []

namespace ProgramDraft

/-- What an option of the program changes. -/
def withOption (draft : ProgramDraft) (option : ProgramOption) (value : String) :
    Except Halt ProgramDraft :=
  match option with
  | .help => .error .help
  | .version => .error .version
  | .config => .ok { draft with config := some (.ofText value) }
  | .logLevel =>
    if offeredLevels.contains value then
      .ok { draft with log := { draft.log with logLevel := .text value } }
    else .error (.refused (.argument "--log-level" (.notOffered value offeredLevels)))
  | .verbose => .ok { draft with log := { draft.log with verbose := .bool true } }
  | .quiet => .ok { draft with log := { draft.log with quiet := .bool true } }
  | .logFolder => .ok { draft with log := { draft.log with logFolder := .text value } }
  | .noColors => .ok { draft with log := { draft.log with noColors := .bool true } }

/-- The command and all that follows it are kept; an option that is not known is left over. -/
def place (draft : ProgramDraft) (word : Word ProgramOption) : ProgramDraft × List String :=
  match draft.words, word.role with
  | [], .unknown => (draft, [word.text])
  | words, _ => ({ draft with words := words ++ [word.text] }, [])

/-- How the options of the program are read. -/
def grammar : Grammar ProgramOption ProgramDraft where
  switches := [
    { meaning := .help, names := ["-h", "--help"] },
    { meaning := .version, names := ["--version"] },
    { meaning := .config, names := ["--config"], takesValue := true },
    { meaning := .logLevel, names := ["--log-level"], takesValue := true },
    { meaning := .verbose, names := ["--verbose", "-v"] },
    { meaning := .quiet, names := ["--quiet", "-q"] },
    { meaning := .logFolder, names := ["--log-dir"], takesValue := true },
    { meaning := .noColors, names := ["--no-log-colors"] }]
  apply := withOption
  place := place
  isClosed draft := !draft.words.isEmpty

end ProgramDraft

/-- What a command has been given. -/
structure CommandDraft where
  text : Option String := none
  zone : Option String := none
  time : Option String := none
  limit : Option Int := none
  /-- Whether the rule text is the word that was read last. -/
  endsWithText : Bool := false

namespace CommandDraft

/-- The limit that a text asks for. -/
def readLimit (text : String) : Except Halt Int :=
  match Text.wholeInteger? text with
  | none => .error (.refused (.argument "--limit" (.notInteger text)))
  | some number =>
    if number < 1 then .error (.refused (.argument "--limit" (.belowOne number))) else .ok number

/-- What an option of a command changes. -/
def withOption (draft : CommandDraft) (option : CommandOption) (value : String) :
    Except Halt CommandDraft :=
  match option with
  | .help => .error .help
  | .zone => .ok { draft with zone := some value, endsWithText := false }
  | .time => .ok { draft with time := some value, endsWithText := false }
  | .limit => do
    let limit ← readLimit value
    return { draft with limit := some limit, endsWithText := false }

/-- The first operand is the rule text, and all others are left over. A separator counts as part of the
    rule text that it stands next to. -/
def place (draft : CommandDraft) (word : Word CommandOption) : CommandDraft × List String :=
  let passed := { draft with endsWithText := false }
  match word.role, draft.text with
  | .operand, none => ({ draft with text := some word.text, endsWithText := true }, [])
  | .separator, none => (passed, [])
  | .separator, some _ => (passed, if draft.endsWithText then [] else [word.text])
  | _, _ => (passed, [word.text])

/-- The options of a command. -/
def switches : CommandKind → List (Switch CommandOption)
  | .expand => [
    { meaning := .help, names := ["-h", "--help"] },
    { meaning := .zone, names := ["--zone", "-z"], takesValue := true },
    { meaning := .time, names := ["--time", "-t"], takesValue := true },
    { meaning := .limit, names := ["--limit"], takesValue := true }]
  | _ => [{ meaning := .help, names := ["-h", "--help"] }]

/-- How the words of a command are read. -/
def grammar (kind : CommandKind) : Grammar CommandOption CommandDraft where
  switches := switches kind
  apply := withOption
  place := place
  isClosed _ := false

/-- Rule text from a command line, where a backslash and an `n` stand for a line break. -/
def unfolded (text : String) : String := Text.replaceAll "\\n" "\n" text

/-- The finished command, unless something is missing. -/
def finish (draft : CommandDraft) (kind : CommandKind) : Except Refusal Command :=
  match kind, draft.text, draft.time with
  | .expand, some text, some time => .ok (.expand (unfolded text) draft.zone time draft.limit)
  | .expand, some _, none => .error (.missing ["--time/-t"])
  | .expand, none, some _ => .error (.missing ["rule"])
  | .expand, none, none => .error (.missing ["rule", "--time/-t"])
  | .parse, some text, _ => .ok (.parse (unfolded text))
  | .validate, some text, _ => .ok (.validate text)
  | .format, some text, _ => .ok (.format (unfolded text))
  | _, none, _ => .error (.missing ["rule"])

/-- The command that words ask for, with the words that are left over. -/
def read (kind : CommandKind) (words : List String) : Except Early (Command × List String) := do
  let program := programName ++ " " ++ kind.name
  let (draft, strays) ← ((grammar kind).read {} words).mapError (Early.ofHalt program)
  let command ← (draft.finish kind).mapError (Early.refused program)
  return (command, strays)

end CommandDraft

namespace Invocation

/-- What the words of a command line ask for. -/
def ofWords (words : List String) : Except Early Invocation := do
  let (draft, strays) ← (ProgramDraft.grammar.read {} words).mapError (Early.ofHalt programName)
  match draft.words with
  | [] | ["--"] => .error (.refused programName (.missing ["COMMAND"]))
  | name :: rest =>
    match CommandKind.ofName? name with
    | none =>
      .error (.refused programName
        (.argument "COMMAND" (.notOffered name (CommandKind.all.map CommandKind.name))))
    | some kind => do
      let (command, more) ← CommandDraft.read kind rest
      match strays ++ more with
      | [] => return ⟨draft.config, draft.log, command⟩
      | left => .error (.refused programName (.unrecognized left))

end Invocation

end Recurrence
