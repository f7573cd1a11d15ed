import Recurrence.Value

namespace Recurrence.Log

/-- The level of a record that reports details of the work. -/
def debug : Int := 10

/-- The level between details and information. -/
def verbose : Int := 15

/-- The level of a record that informs. -/
def info : Int := 20

/-- The level of a record that warns. -/
def warning : Int := 30

/-- The level of a record that reports an error. -/
def error : Int := 40

/-- The level of a record that reports a disaster. -/
def critical : Int := 50

/-- How records show a level. -/
def levelName (level : Int) : String :=
  if level = 0 then "NOTSET"
  else if level = debug then "DEBUG"
  else if level = verbose then "VERBOSE"
  else if level = info then "INFO"
  else if level = warning then "WARNING"
  else if level = error then "ERROR"
  else if level = critical then "CRITICAL"
  else s!"Level {level}"

/-- The names that are read as levels. -/
def namedLevels : List (String × Int) :=
  [("NOTSET", 0), ("DEBUG", debug), ("VERBOSE", verbose), ("INFO", info), ("WARN", warning),
    ("WARNING", warning), ("ERROR", error), ("FATAL", critical), ("CRITICAL", critical)]

/-- A letter in upper case. Besides the Latin letters there are two whose upper case is Latin. -/
def upperCase (c : Char) : Char :=
  if c = 'ı' then 'I' else if c = 'ſ' then 'S' else c.toUpper

/-- The level that a name stands for, whatever the case of its letters; what is no name stands for information. -/
def levelOf (name : String) : Int :=
  let upper := String.ofList (name.toList.map upperCase)
  ((namedLevels.find? (·.1 == upper)).map (·.2)).getD info

/-- The level that a configured value stands for. What counts as not given stands for the level of
    information; any other value has to be a text. -/
def levelOfValue? : Value → Option Int
  | .text name => some (levelOf name)
  | value => if value.isTruthy then none else some info

/-- A record: its level, the logger that it belongs to, its message, and the place that it reports as its
    own. -/
structure Record where
  level : Int
  logger : String
  message : String
  function : String := "f"
  line : Int := 1
deriving DecidableEq, Repr

namespace Record

/-- The line of a console. -/
def consoleLine (record : Record) : String :=
  levelName record.level ++ " " ++ record.logger ++ ": " ++ record.message

/-- What switches a terminal to the colour of a level; other levels have none. -/
def color? (level : Int) : Option String :=
  if level = debug then some "\x1b[90m"
  else if level = verbose then some "\x1b[36m"
  else if level = info then some "\x1b[32m"
  else if level = warning then some "\x1b[33m"
  else if level = error then some "\x1b[31m"
  else if level = critical then some "\x1b[1;31m"
  else none

/-- The line of a console, tinted as a whole if colours are asked for. -/
def tintedLine (record : Record) (colors : Bool) : String :=
  match if colors then color? record.level else none with
  | some color => color ++ record.consoleLine ++ "\x1b[0m"
  | none => record.consoleLine

/-- The line of a log file, with the record's place if that is asked for. -/
def fileLine (record : Record) (time : String) (places : Bool) : String :=
  let place := if places then s!" {record.function}:{record.line}" else ""
  time ++ " " ++ levelName record.level ++ " " ++ record.logger ++ place ++ ": " ++ record.message

end Record

end Recurrence.Log
