import Recurrence.Document.Yaml.Cursor
import Recurrence.Text.Digit
import Recurrence.Text.Split

namespace Recurrence.Yaml

/-- What a node is meant to be. -/
inductive Tag where
  | null
  | bool
  | int
  | float
  | binary
  | timestamp
  | str
  | seq
  | map
  | set
  | pairs
  | orderedMap
  /-- The key under which a map names maps whose entries it takes over. -/
  | merge
  /-- The key under which a map has the value that it stands for. -/
  | value
  | unknown
deriving DecidableEq, Repr

namespace Tag

/-- What the addresses of the known tags begin with. -/
def space : String := "tag:yaml.org,2002:"

/-- The tags that nodes can be given, by what follows in their addresses. -/
def names : List (String × Tag) :=
  [("null", null), ("bool", bool), ("int", int), ("float", float), ("binary", binary),
    ("timestamp", timestamp), ("str", str), ("seq", seq), ("map", map), ("set", set),
    ("pairs", pairs), ("omap", orderedMap), ("merge", merge), ("value", value)]

/-- The tag with an address. -/
def ofAddress (address : String) : Tag :=
  ((names.find? fun entry => space ++ entry.1 == address).map (·.2)).getD unknown

/-- Words for null. -/
def nullWords : List String := ["", "~", "null", "Null", "NULL"]

/-- Words for truth values. -/
def truthWords : List String :=
  ["yes", "Yes", "YES", "no", "No", "NO", "true", "True", "TRUE", "false", "False", "FALSE",
    "on", "On", "ON", "off", "Off", "OFF"]

/-- Whether a character is a Latin digit of a base up to ten, or an underscore. -/
def isDigitOf (base : Nat) (c : Char) : Bool :=
  c == '_' || ((Text.latinDigit? c).map (decide <| · < base)).getD false

/-- Whether a character is a Latin digit. -/
def isLatinDigit (c : Char) : Bool := (Text.latinDigit? c).isSome

/-- Whether a character is a hexadecimal digit, or an underscore. -/
def isHexDigit (c : Char) : Bool :=
  isDigitOf 10 c || ('a' ≤ c && c ≤ 'f') || ('A' ≤ c && c ≤ 'F')

/-- A text without the sign that may begin it. -/
def unsigned : List Char → List Char
  | '-' :: rest => rest
  | '+' :: rest => rest
  | text => text

/-- Whether a group is a number below sixty, in one digit or two. -/
def isSixtieth : List Char → Bool
  | [a] => isLatinDigit a
  | [a, b] => isDigitOf 6 a && a != '_' && isLatinDigit b
  | _ => false

/-- Whether a text is one or more groups below sixty, each after a colon. -/
def isSixties (text : List Char) : Bool :=
  match Text.fields ':' text with
  | [] :: group :: groups => (group :: groups).all isSixtieth
  | _ => false

/-- Whether a text without sign is written as an integer: in base two, eight, ten or sixteen, or in groups
    of base sixty. -/
def isInteger : List Char → Bool
  | ['0'] => true
  | '0' :: 'b' :: digits => !digits.isEmpty && digits.all (isDigitOf 2)
  | '0' :: 'x' :: digits => !digits.isEmpty && digits.all isHexDigit
  | '0' :: digits => digits.all (isDigitOf 8)
  | c :: rest =>
    isLatinDigit c &&
      (let groups := rest.dropWhile (isDigitOf 10)
       groups.isEmpty || isSixties groups)
  | [] => false

/-- Whether a text is the exponent of a fraction, or empty. -/
def isExponent : List Char → Bool
  | [] => true
  | mark :: sign :: digits =>
    (mark == 'e' || mark == 'E') && (sign == '-' || sign == '+') && !digits.isEmpty &&
      digits.all isLatinDigit
  | _ => false

/-- Whether a text is written as a fraction. -/
def isFraction (text : List Char) : Bool :=
  let body := unsigned text
  if [".inf", ".Inf", ".INF"].contains (String.ofList body) then true
  else if [".nan", ".NaN", ".NAN"].contains (String.ofList text) then true
  else
    match body with
    | '.' :: c :: rest =>
      text.head? == some '.' && isLatinDigit c && isExponent (rest.dropWhile (isDigitOf 10))
    | c :: rest =>
      isLatinDigit c &&
        (match rest.dropWhile (isDigitOf 10) with
        | '.' :: fraction => isExponent (fraction.dropWhile (isDigitOf 10))
        | groups =>
          let sixties := groups.takeWhile (· != '.')
          match groups.drop sixties.length with
          | '.' :: fraction => isSixties sixties && fraction.all (isDigitOf 10)
          | _ => false)
    | [] => false

/-- The parts of a date or of a date with a time of day, as they are written. -/
structure WrittenMoment where
  year : List Char
  month : List Char
  day : List Char
  /-- Hour, minute, second and fraction. -/
  clock : Option (List Char × List Char × List Char × List Char) := none
  /-- The offset from universal time: a sign, hours and minutes. -/
  offset : Option (Char × List Char × List Char) := none
  isUniversal : Bool := false

/-- Between `least` and `most` digits at the start of a text, as many as there are, and what follows. -/
def digitRun? (least most : Nat) (text : List Char) : Option (List Char × List Char) :=
  let run := (text.take most).takeWhile isLatinDigit
  if least ≤ run.length then some (run, text.drop run.length) else none

/-- What follows an expected character. -/
def after? (expected : Char) : List Char → Option (List Char)
  | c :: rest => if c = expected then some rest else none
  | [] => none

/-- The offset at the end of a moment. -/
def offset? (text : List Char) : Option (Option (Char × List Char × List Char) × Bool) :=
  match text.dropWhile isGap with
  | [] => if text.isEmpty then some (none, false) else none
  | ['Z'] => some (none, true)
  | sign :: rest => do
    if sign = '-' ∨ sign = '+' then
      let (hours, rest) ← digitRun? 1 2 rest
      if rest.isEmpty then some (some (sign, hours, []), false)
      else
        let (minutes, rest) ← (after? ':' rest).bind (digitRun? 2 2)
        if rest.isEmpty then some (some (sign, hours, minutes), false) else none
    else none

/-- The parts of a moment. Month and day may lack a digit only before a time of day, unless `loose`. -/
def moment? (loose : Bool) (text : List Char) : Option WrittenMoment := do
  let (year, rest) ← digitRun? 4 4 text
  let (month, rest) ← (after? '-' rest).bind (digitRun? 1 2)
  let (day, rest) ← (after? '-' rest).bind (digitRun? 1 2)
  match rest with
  | [] =>
    if loose || (month.length == 2 && day.length == 2) then some { year, month, day } else none
  | c :: next =>
    let start ← if c = 'T' ∨ c = 't' then some next else if isGap c then some (next.dropWhile isGap) else none
    let (hour, rest) ← digitRun? 1 2 start
    let (minute, rest) ← (after? ':' rest).bind (digitRun? 2 2)
    let (second, rest) ← (after? ':' rest).bind (digitRun? 2 2)
    let (fraction, rest) :=
      match rest with
      | '.' :: more => (more.takeWhile isLatinDigit, more.dropWhile isLatinDigit)
      | rest => ([], rest)
    let (offset, isUniversal) ← offset? rest
    some { year, month, day, clock := some (hour, minute, second, fraction), offset, isUniversal }

/-- The tag of a plain scalar: that of the notation it is written in, which is the text itself if it is no other.
    The notations exclude each other. -/
def ofPlain (text : String) : Tag :=
  let characters := text.toList
  if nullWords.contains text then null
  else if truthWords.contains text then bool
  else if text = "<<" then merge
  else if text = "=" then value
  else if isInteger (unsigned characters) then int
  else if isFraction characters then float
  else if (moment? false characters).isSome then timestamp
  else str

end Tag

end Recurrence.Yaml
