import Recurrence.Calendar.Civil
import Recurrence.Document.Yaml.Fault
import Recurrence.Document.Yaml.Tag
import Recurrence.Text.Hexadecimal
import Recurrence.Text.Numeral
import Recurrence.Value

namespace Recurrence.Yaml

/-- A text without the underscores in it. -/
def withoutUnderscores (text : String) : List Char := text.toList.filter (· != '_')

/-- The integer that a text writes in a base, blanks around it and a sign allowed. -/
def integerIn (base : Nat) (text : List Char) : Except Fault Int :=
  let (negative, digits) := Text.takeSign (Text.strip text)
  let digit? (c : Char) : Option Nat := (Text.digitValue? c).or (Text.hexDigit? c)
  let number? := digits.foldlM (fun number c =>
    match digit? c with
    | some digit => if digit < base then some (number * base + digit) else none
    | none => none) 0
  if digits.isEmpty || (base == 10 && decide (Text.numeralLimit < digits.length)) then
    .error .noSuchValue
  else
    match number? with
    | some number => .ok (Text.signed negative number)
    | none => .error .noSuchValue

/-- The number that groups of digits write in base sixty. -/
def integerOfSixties (groups : List (List Char)) : Except Fault Int :=
  groups.foldlM (fun number group => (integerIn 10 group).map (number * 60 + ·)) 0

/-- The integer that a scalar writes: the first digits say in which base. -/
def integerOf (text : String) : Except Fault Int := do
  let (negative, body) := Text.takeSign (withoutUnderscores text)
  let number ←
    match body with
    | [] => .error .emptyNumeral
    | ['0'] => .ok 0
    | '0' :: 'b' :: digits => integerIn 2 digits
    | '0' :: 'x' :: digits => integerIn 16 digits
    | '0' :: _ => integerIn 8 body
    | _ => if body.contains ':' then integerOfSixties (Text.fields ':' body) else integerIn 10 body
  return if negative then -number else number

/-- A number with a point and perhaps an exponent. -/
def decimal? (body : List Char) : Option Decimal := do
  let whole := body.takeWhile Tag.isLatinDigit
  let (fraction, rest) :=
    match body.drop whole.length with
    | '.' :: more => (more.takeWhile Tag.isLatinDigit, more.dropWhile Tag.isLatinDigit)
    | rest => ([], rest)
  let power ←
    match rest with
    | [] => some 0
    | 'e' :: digits =>
      match Text.takeSign digits with
      | (_, []) => none
      | (negative, digits) =>
        if digits.all Tag.isLatinDigit then some (Text.signed negative (Text.ofDigits digits)) else none
    | _ => none
  if whole.isEmpty && fraction.isEmpty then none
  else some ⟨Text.ofDigits (whole ++ fraction), power - fraction.length⟩

/-- The value of a fraction; groups before the last one count sixty times as much as the next. -/
def fractionOf (text : String) : Except Fault Value :=
  let (negative, body) := Text.takeSign ((withoutUnderscores text).map Char.toLower)
  let groups := (Text.fields ':' body).map decimal?
  let add (sum : Decimal) (group : Option Decimal) : Option Decimal :=
    group.map fun number =>
      let least := min sum.exponent number.exponent
      let scaled (number : Decimal) : Int := number.digits * Int.pow 10 (number.exponent - least).toNat
      ⟨scaled sum * 60 + scaled number, least⟩
  if (withoutUnderscores text).isEmpty then .error .emptyNumeral
  else if body = ".inf".toList then .ok (.foreign (.infinity negative))
  else if body = ".nan".toList then .ok (.foreign .notNumber)
  else
    match groups.foldlM add ⟨0, 0⟩ with
    | some number =>
      .ok (.ofDecimal (if negative then ⟨-number.digits, number.exponent⟩ else number))
    | none => .error .noSuchValue

/-- The truth value that a word names, whatever the case of its letters. -/
def truthOf (text : String) : Except Fault Bool :=
  let word := String.ofList (text.toList.map Char.toLower)
  if ["yes", "true", "on"].contains word then .ok true
  else if ["no", "false", "off"].contains word then .ok false
  else .error .noTruthWord

/-- A date, or a date with a time of day; both must exist, and an offset is less than a day. -/
def momentOf (text : String) : Except Fault Value :=
  match Tag.moment? true text.toList with
  | none => .error .noDateForm
  | some found =>
    match Date.ofFields (Text.ofDigits found.year) (Text.ofDigits found.month)
        (Text.ofDigits found.day) with
    | .error _ => .error .noSuchValue
    | .ok _ =>
      match found.clock with
      | none => .ok (.foreign (.moment text))
      | some (hour, minute, second, _) =>
        let minutes := (found.offset.map fun (_, hours, minutes) =>
          Text.ofDigits hours * 60 + Text.ofDigits minutes).getD 0
        match TimeOfDay.ofFields (Text.ofDigits hour) (Text.ofDigits minute)
            (Text.ofDigits second) 0 with
        | .ok _ => if minutes < 1440 then .ok (.foreign (.moment text)) else .error .noSuchValue
        | .error _ => .error .noSuchValue

/-- Whether a character is one of the sixty-four that write bytes. -/
def isBase64 (c : Char) : Bool := c.isAlphanum || c == '+' || c == '/'

/-- Reads bytes in base sixty-four: `place` counts characters of a group of four, `pads` the signs that
    fill the last group, `any` whether there are bytes. Other characters do not count. -/
def bytesFrom : (place pads : Nat) → (any : Bool) → List Char → Option Bool
  | place, _, any, [] => if place = 0 then some any else none
  | place, pads, any, c :: rest =>
    if c = '=' then
      if 2 ≤ place ∧ 4 ≤ place + pads + 1 then some any
      else bytesFrom place (if 2 ≤ place then pads + 1 else pads) any rest
    else if isBase64 c then bytesFrom ((place + 1) % 4) 0 (any || 1 ≤ place) rest
    else bytesFrom place pads any rest

/-- The bytes that a text writes. -/
def bytesOf (text : String) : Except Fault Value :=
  if text.toList.all (·.toNat < 128) then
    match bytesFrom 0 0 false text.toList with
    | some any => .ok (.foreign (.bytes !any))
    | none => .error .malformed
  else .error .malformed

/-- The value of a scalar with a tag. A text that does not keep what its tag promises is a fault, and which one
    depends on the tag. Tags of collections are no tags of scalars, and neither are those that have a meaning only
    for keys. -/
def scalarValue (tag : Tag) (text : String) : Except Fault Value :=
  match tag with
  | .null => .ok .null
  | .bool => (truthOf text).map .bool
  | .int => (integerOf text).map .int
  | .float => fractionOf text
  | .binary => bytesOf text
  | .timestamp => momentOf text
  | .str => .ok (.text text)
  | _ => .error .malformed

end Recurrence.Yaml
