import Recurrence.Text.Numeral
import Recurrence.Text.Split
import Recurrence.Value

namespace Recurrence

/-- Why a value does not fit its field. -/
inductive Flaw where
  | notInteger
  | unreadableInteger
  /-- An integer of more digits than are read, or a fraction that no machine integer is. -/
  | integerTooLong
  | notWhole
  | notFinite
  | belowOne
  | notTruth
  | unreadableTruth
  | notText
  | brokenText
  | notPath
  | notSection
  | notSequence
  | unknownToken
deriving DecidableEq, Repr

/-- The code of a flaw in reports. -/
def Flaw.code : Flaw → String
  | .notInteger => "int_type"
  | .unreadableInteger => "int_parsing"
  | .integerTooLong => "int_parsing_size"
  | .notWhole => "int_from_float"
  | .notFinite => "finite_number"
  | .belowOne => "greater_than_equal"
  | .notTruth => "bool_type"
  | .unreadableTruth => "bool_parsing"
  | .notText => "string_type"
  | .brokenText => "string_unicode"
  | .notPath => "path_type"
  | .notSection => "model_type"
  | .notSequence => "tuple_type"
  | .unknownToken => "enum"

/-- A flaw and the field that has it, as the names that lead to it. -/
structure Complaint where
  location : List String
  flaw : Flaw
deriving DecidableEq, Repr

namespace Value

/-- Whether a character is a Latin digit. -/
def isFigure (c : Char) : Bool := (Text.latinDigit? c).isSome

/-- Whether a character is white space of the Unicode property, which leaves out the separator controls. -/
def isOuterBlank (c : Char) : Bool := Text.isBlank c && !(28 ≤ c.toNat && c.toNat ≤ 31)

/-- A text without the white space at its ends. -/
def trimmed (text : List Char) : List Char :=
  ((text.dropWhile isOuterBlank).reverse.dropWhile isOuterBlank).reverse

/-- A numeral without the zeros that begin it, among which underscores may stand; a minus may come after
    them. One character stays if nothing or a point follows. -/
def withoutZeros? : List Char → Option (List Char)
  | [] => none
  | first :: rest =>
    if first = '0' then
      let zeros := rest.takeWhile fun c => c == '0' || c == '_'
      let last := (first :: zeros).getLastD '0'
      match rest.drop zeros.length with
      | [] => some [last]
      | c :: more =>
        if c = '.' then some (last :: c :: more)
        else if isFigure c ∨ c = '-' then some (c :: more)
        else none
    else if isFigure first ∨ first = '-' then some (first :: rest)
    else none

/-- A numeral without a fraction of zeros. -/
def withoutFraction (text : List Char) : List Char :=
  match Text.cut '.' text with
  | (whole, fraction) => if !fraction.isEmpty && fraction.all (· == '0') then whole else text

/-- Whether two underscores stand side by side. -/
def hasDoubleUnderscore : List Char → Bool
  | '_' :: '_' :: _ => true
  | _ :: rest => hasDoubleUnderscore rest
  | [] => false

/-- A numeral without underscores, which may stand alone between other characters only. -/
def withoutUnderscores? (text : List Char) : Option (List Char) :=
  if text.head? = some '_' ∨ text.getLast? = some '_' ∨ hasDoubleUnderscore text then none
  else some (text.filter (· != '_'))

/-- The figures of a text with those signs left out that an integer may be written with: blanks around it,
    a sign, zeros before it, a fraction of zeros and underscores. -/
def figures? (text : List Char) : Option (List Char) := do
  let body ←
    match trimmed text with
    | '+' :: rest => if (rest.head?.map isFigure).getD false then withoutZeros? rest else none
    | '-' :: rest => (withoutZeros? rest).map ('-' :: ·)
    | body => withoutZeros? body
  withoutUnderscores? (withoutFraction body)

/-- Splits off a minus. -/
def takeMinus : List Char → Bool × List Char
  | '-' :: rest => (true, rest)
  | body => (false, body)

/-- Whether a text begins with more figures than are read, not counting zeros but counting a minus. -/
def isTooLong (text : List Char) : Bool :=
  let (negative, body) := takeMinus text
  body.head? ≠ some '0' &&
    decide (Text.numeralLimit < (body.takeWhile isFigure).length + (if negative then 1 else 0))

/-- The integer that a field's text writes. -/
def integerText (text : String) : Except Flaw Int :=
  if isTooLong text.toList then .error .integerTooLong
  else
    match figures? text.toList with
    | none => .error .unreadableInteger
    | some body =>
      let (negative, figures) := takeMinus body
      if isTooLong body then .error .integerTooLong
      else if figures.isEmpty || !figures.all isFigure ||
          (figures.head? == some '0' && figures != ['0']) then .error .unreadableInteger
      else .ok (Text.signed negative (Text.ofDigits figures))

/-- Whether an integer fits into 64 bits. -/
def isMachineInteger (number : Int) : Bool :=
  decide (-9223372036854775808 ≤ number) && decide (number ≤ 9223372036854775807)

/-- The integer that a number with a fraction is, if it fits into 64 bits and is not the least that does. -/
def realInteger (number : Decimal) : Except Flaw Int :=
  match number.integer? with
  | none => .error .notWhole
  | some whole => if whole.natAbs < 9223372036854775808 then .ok whole else .error .integerTooLong

/-- The value of an integer field, which may come as text or as a truth value. -/
def integer : Value → Except Flaw Int
  | .int value => .ok value
  | .bool value => .ok (if value then 1 else 0)
  | .text content => integerText content
  | .real number => realInteger number
  | .foreign .brokenText => .error .brokenText
  | .foreign (.infinity _) | .foreign .notNumber => .error .notFinite
  | _ => .error .notInteger

/-- The value of an integer field that must be at least one. -/
def positive (value : Value) : Except Flaw { number : Int // 1 ≤ number } := do
  let number ← value.integer
  if h : 1 ≤ number then .ok ⟨number, h⟩ else .error .belowOne

/-- Words for truth, in lower case. -/
def truthWords : List String := ["1", "on", "t", "true", "y", "yes"]

/-- Words for falsehood, in lower case. -/
def falsehoodWords : List String := ["0", "off", "f", "false", "n", "no"]

/-- The truth value that a number is, if it is a machine integer. -/
def truthNumber (number : Int) : Except Flaw Bool :=
  if number = 1 then .ok true
  else if number = 0 then .ok false
  else if isMachineInteger number then .error .unreadableTruth
  else .error .notTruth

/-- The value of a truth field. -/
def truth : Value → Except Flaw Bool
  | .bool value => .ok value
  | .int value => truthNumber value
  | .real number =>
    match realInteger number with
    | .ok whole => truthNumber whole
    | .error _ => .error .notTruth
  | .text content =>
    let word := String.ofList (content.toList.map Char.toLower)
    if truthWords.contains word then .ok true
    else if falsehoodWords.contains word then .ok false
    else .error .unreadableTruth
  | .foreign .brokenText => .error .brokenText
  | _ => .error .notTruth

/-- The value of a text field. -/
def textual : Value → Except Flaw String
  | .text content => .ok content
  | .foreign .brokenText => .error .brokenText
  | _ => .error .notText

/-- The value of a field that may be left out by writing null. -/
def optional {α : Type} (read : Value → Except Flaw α) : Value → Except Flaw (Option α)
  | .null => .ok none
  | value => (read value).map some

end Value

/-- The complaint about a field, if its value was refused. -/
def complaintOf {α : Type} (location : List String) : Except Flaw α → List Complaint
  | .ok _ => []
  | .error flaw => [⟨location, flaw⟩]

/-- The complaints of a check of several parts. -/
def complaintsOf {α : Type} : Except (List Complaint) α → List Complaint
  | .ok _ => []
  | .error complaints => complaints

end Recurrence
