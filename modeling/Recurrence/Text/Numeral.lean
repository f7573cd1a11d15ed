import Recurrence.Text.Blank
import Recurrence.Text.Digit

namespace Recurrence.Text

/-- A numeral that is too long to be read. -/
structure NumeralError where
  digits : Nat
deriving DecidableEq, Repr

/-- The longest numeral that is read. A longer one is a fault of its own, and its text is not one without a
    number. -/
def numeralLimit : Nat := 4300

/-- The wording of a numeral error. -/
def NumeralError.message (error : NumeralError) : String :=
  s!"Exceeds the limit ({numeralLimit} digits) for integer string conversion: value has {error.digits} digits; use sys.set_int_max_str_digits() to increase the limit"

/-- The number that a list of digits writes. -/
def ofDigits (digits : List Char) : Nat :=
  digits.foldl (fun number c => number * 10 + (digitValue? c).getD 0) 0

/-- The first `count` characters of a text and what follows them, if they are all digits. -/
def takeDigits (count : Nat) (text : List Char) : Option (List Char × List Char) :=
  let group := text.take count
  if group.length = count ∧ group.all isDigit then some (group, text.drop count) else none

/-- Splits off a sign; the first part says whether it was a minus. -/
def takeSign : List Char → Bool × List Char
  | '-' :: rest => (true, rest)
  | '+' :: rest => (false, rest)
  | text => (false, text)

/-- A natural number with a sign. -/
def signed (negative : Bool) (number : Nat) : Int :=
  if negative then -(number : Int) else number

/-- The integer at the start of a text, after blanks; what follows it is ignored. -/
def leadingInteger (text : List Char) : Except NumeralError (Option Int) :=
  let (negative, body) := takeSign (stripLeft text)
  let digits := body.takeWhile isDigit
  if digits.isEmpty then .ok none
  else if numeralLimit < digits.length then .error ⟨digits.length⟩
  else .ok (some (signed negative (ofDigits digits)))

/-- Drops the single underscores that stand between two digits; `none` if the text is not digits with
    such underscores. -/
def digitGroups? (digit : Char → Bool) : List Char → Option (List Char)
  | [] => none
  | [c] => if digit c then some [c] else none
  | c :: '_' :: rest => if digit c then (digitGroups? digit rest).map (c :: ·) else none
  | c :: rest => if digit c then (digitGroups? digit rest).map (c :: ·) else none

/-- The integer that a whole text writes, blanks around it and single underscores between digits
    allowed. A numeral that is too long counts as none. -/
def wholeInteger? (text : String) : Option Int := do
  let (negative, body) := takeSign (strip text.toList)
  let digits ← digitGroups? isDigit body
  if numeralLimit < digits.length then none
  else some (signed negative (ofDigits digits))

end Recurrence.Text
