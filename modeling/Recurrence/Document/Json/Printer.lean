import Recurrence.Text.Hexadecimal
import Recurrence.Value

namespace Recurrence.Json

/-- A character outside ASCII as one or two escapes of 16 bits. -/
def unicodeEscape (c : Char) : List Char :=
  let n := c.toNat
  let unit (n : Nat) : List Char := '\\' :: 'u' :: Text.hexadecimal 4 n
  if n < 0x10000 then unit n
  else unit (0xd800 + (n - 0x10000) / 0x400) ++ unit (0xdc00 + (n - 0x10000) % 0x400)

/-- A character of a written string. -/
def escapeChar (c : Char) : List Char :=
  if c = '"' then ['\\', '"']
  else if c = '\\' then ['\\', '\\']
  else if c = '\n' then ['\\', 'n']
  else if c = '\r' then ['\\', 'r']
  else if c = '\t' then ['\\', 't']
  else if c = '\x08' then ['\\', 'b']
  else if c = '\x0c' then ['\\', 'f']
  else if 32 ≤ c.toNat ∧ c.toNat < 127 then [c]
  else unicodeEscape c

/-- A written string. -/
def writtenText (text : String) : String :=
  "\"" ++ String.ofList (text.toList.flatMap escapeChar) ++ "\""

/-- A line break with the blanks that begin a line at a depth. -/
def lineBreak (depth : Nat) : String := "\n" ++ String.ofList (List.replicate (2 * depth) ' ')

/-- The written form of a value at a depth. Every entry stands on a line of its own, two blanks deeper than what
    holds it. -/
def written (depth : Nat) : Value → String
  | .null => "null"
  | .bool true => "true"
  | .bool false => "false"
  | .int number => toString number
  | .real number => number.shown
  | .text text => writtenText text
  | .foreign value => writtenText value.shown
  | .list [] => "[]"
  | .list items =>
    "[" ++ lineBreak (depth + 1) ++
      ("," ++ lineBreak (depth + 1)).intercalate (writtenItems (depth + 1) items) ++
      lineBreak depth ++ "]"
  | .map [] => "\x7b\x7d"
  | .map entries =>
    "\x7b" ++ lineBreak (depth + 1) ++
      ("," ++ lineBreak (depth + 1)).intercalate (writtenEntries (depth + 1) entries) ++
      lineBreak depth ++ "\x7d"
where
  /-- The items of a list. -/
  writtenItems (depth : Nat) : List Value → List String
    | [] => []
    | item :: rest => written depth item :: writtenItems depth rest
  /-- The entries of a map. -/
  writtenEntries (depth : Nat) : List (Value × Value) → List String
    | [] => []
    | (key, value) :: rest =>
      (writtenText key.plain ++ ": " ++ written depth value) :: writtenEntries depth rest

end Recurrence.Json
