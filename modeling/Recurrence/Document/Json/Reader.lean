import Recurrence.Text.Hexadecimal
import Recurrence.Text.Numeral
import Recurrence.Text.Split
import Recurrence.Value.Merge

namespace Recurrence.Json

/-- Why a text has no value. -/
inductive Fault where
  | malformed
  /-- More lists and maps are open at once than are kept track of. -/
  | tooDeep
deriving DecidableEq, Repr

/-- How many lists and maps may be open at once. -/
def depthLimit : Nat := 984

/-- Blanks between tokens. -/
def skipBlanks (text : List Char) : List Char :=
  text.dropWhile fun c => c == ' ' || c == '\t' || c == '\n' || c == '\r'

/-- The character that a short escape stands for. -/
def shortEscape? (c : Char) : Option Char :=
  if c = '"' ∨ c = '\\' ∨ c = '/' then some c
  else if c = 'b' then some '\x08'
  else if c = 'f' then some '\x0c'
  else if c = 'n' then some '\n'
  else if c = 'r' then some '\r'
  else if c = 't' then some '\t'
  else none

/-- The codes of a string after its opening quote, and what follows the closing one. An escape may give
    half of a surrogate pair. -/
def codes? : List Char → Option (List Nat × List Char)
  | '\\' :: 'u' :: a :: b :: c :: d :: rest => do
    let code ← Text.hexNumber? [a, b, c, d]
    let (codes, after) ← codes? rest
    return (code :: codes, after)
  | '\\' :: c :: rest => do
    let meant ← shortEscape? c
    let (codes, after) ← codes? rest
    return (meant.toNat :: codes, after)
  | c :: rest =>
    if c = '"' then some ([], rest)
    else if c = '\\' ∨ c.toNat < 32 then none
    else (codes? rest).map fun (codes, after) => (c.toNat :: codes, after)
  | [] => none

/-- Whether a code is the first half of a surrogate pair. -/
def isFirstHalf (code : Nat) : Bool := 0xd800 ≤ code && code < 0xdc00

/-- Whether a code is the second half of a surrogate pair. -/
def isSecondHalf (code : Nat) : Bool := 0xdc00 ≤ code && code < 0xe000

/-- The characters with these codes, unless half of a surrogate pair stands alone. -/
def characters? : List Nat → Option (List Char)
  | [] => some []
  | [code] => if isFirstHalf code || isSecondHalf code then none else some [Char.ofNat code]
  | first :: second :: rest =>
    if isFirstHalf first then
      if isSecondHalf second then
        (characters? rest).map
          (Char.ofNat (0x10000 + (first - 0xd800) * 0x400 + (second - 0xdc00)) :: ·)
      else none
    else if isSecondHalf first then none
    else (characters? (second :: rest)).map (Char.ofNat first :: ·)

/-- A string after its opening quote, and what follows the closing one. -/
def string? (text : List Char) : Option (Value × List Char) :=
  (codes? text).map fun (codes, rest) =>
    let value :=
      match characters? codes with
      | some found => Value.text (String.ofList found)
      | none => .foreign .brokenText
    (value, rest)

/-- Whether a character is a Latin digit. -/
def isLatinDigit (c : Char) : Bool := (Text.latinDigit? c).isSome

/-- Latin digits at the start of a text, and what follows them. -/
def digits (text : List Char) : List Char × List Char :=
  (text.takeWhile isLatinDigit, text.dropWhile isLatinDigit)

/-- The fraction of a number, if there is one, and what follows it. -/
def fraction (text : List Char) : List Char × List Char :=
  match text with
  | '.' :: rest =>
    let (found, after) := digits rest
    if found.isEmpty then ([], text) else (found, after)
  | _ => ([], text)

/-- The exponent of a number, if there is one, and what follows it. -/
def exponent (text : List Char) : Option Int × List Char :=
  match text with
  | mark :: rest =>
    if mark = 'e' ∨ mark = 'E' then
      let (negative, body) := Text.takeSign rest
      let (found, after) := digits body
      if found.isEmpty then (none, text)
      else (some (Text.signed negative (Text.ofDigits found)), after)
    else (none, text)
  | [] => (none, text)

/-- A number at the start of a text, and what follows it. Without a fraction and an exponent it is an
    integer, which may be too long to be read. -/
def number? (text : List Char) : Option (Value × List Char) :=
  let (negative, body) :=
    match text with
    | '-' :: rest => (true, rest)
    | text => (false, text)
  let (whole, rest) := digits body
  let (places, rest) := fraction rest
  let (power, rest) := exponent rest
  if whole.isEmpty ∨ (whole.head? = some '0' ∧ whole ≠ ['0']) then none
  else if places.isEmpty ∧ power.isNone then
    if Text.numeralLimit < whole.length then none
    else some (.int (Text.signed negative (Text.ofDigits whole)), rest)
  else
    let written : Decimal :=
      ⟨Text.signed negative (Text.ofDigits (whole ++ places)), power.getD 0 - places.length⟩
    some (.ofDecimal written, rest)

/-- Words, and the values that they stand for. -/
def words : List (String × Value) :=
  [("null", .null), ("true", .bool true), ("false", .bool false), ("NaN", .foreign .notNumber),
    ("Infinity", .foreign (.infinity false)), ("-Infinity", .foreign (.infinity true))]

/-- A word or a number at the start of a text, and what follows it. -/
def plain? (text : List Char) : Option (Value × List Char) :=
  match words.findSome? fun entry => (Text.after? entry.1.toList text).map (entry.2, ·) with
  | some found => some found
  | none => number? text

/-- A reading that was refused where nothing was found. -/
def orMalformed {α : Type} : Option α → Except Fault α
  | some found => .ok found
  | none => .error .malformed

/-- Entries of a map, each name once: the last value of a name in the place of the first. -/
def distinct (entries : List (Value × Value)) : List (Value × Value) :=
  entries.foldl (fun done (key, value) =>
    match key with
    | .text name => Value.put name value done
    | _ => done ++ [(key, value)]) []

mutual

/-- A value at the start of a text, and what follows it; `room` is how many lists and maps may still be
    opened. -/
def valueFrom : (fuel room : Nat) → List Char → Except Fault (Value × List Char)
  | 0, _, _ => .error .malformed
  | fuel + 1, room, text =>
    match skipBlanks text, room with
    | '"' :: rest, _ => orMalformed (string? rest)
    | '[' :: _, 0 | '\x7b' :: _, 0 => .error .tooDeep
    | '[' :: rest, room + 1 =>
      match skipBlanks rest with
      | ']' :: rest => .ok (.list [], rest)
      | rest => (itemsFrom fuel room rest).map fun (items, rest) => (.list items, rest)
    | '\x7b' :: rest, room + 1 =>
      match skipBlanks rest with
      | '\x7d' :: rest => .ok (.map [], rest)
      | rest => (entriesFrom fuel room rest).map fun (entries, rest) => (.map (distinct entries), rest)
    | text, _ => orMalformed (plain? text)

/-- The items of a list after its opening bracket, and what follows the closing one. -/
def itemsFrom : (fuel room : Nat) → List Char → Except Fault (List Value × List Char)
  | 0, _, _ => .error .malformed
  | fuel + 1, room, text => do
    let (item, rest) ← valueFrom fuel room text
    match skipBlanks rest with
    | ',' :: rest =>
      let (items, rest) ← itemsFrom fuel room rest
      return (item :: items, rest)
    | ']' :: rest => return ([item], rest)
    | _ => throw .malformed

/-- The entries of a map after its opening brace, and what follows the closing one. -/
def entriesFrom : (fuel room : Nat) → List Char → Except Fault (List (Value × Value) × List Char)
  | 0, _, _ => .error .malformed
  | fuel + 1, room, text => do
    match skipBlanks text with
    | '"' :: rest =>
      let (key, rest) ← orMalformed (string? rest)
      match skipBlanks rest with
      | ':' :: rest =>
        let (value, rest) ← valueFrom fuel room rest
        match skipBlanks rest with
        | ',' :: rest =>
          let (entries, rest) ← entriesFrom fuel room rest
          return ((key, value) :: entries, rest)
        | '\x7d' :: rest => return ([(key, value)], rest)
        | _ => throw .malformed
      | _ => throw .malformed
    | _ => throw .malformed

end

/-- The value that a text writes. Every call of the reader consumes a character or ends, so the length of
    the text bounds their depth. -/
def read (text : String) : Except Fault Value := do
  let characters := text.toList
  let (value, rest) ← valueFrom (2 * characters.length + 2) depthLimit characters
  if (skipBlanks rest).isEmpty then return value else throw .malformed

end Recurrence.Json
