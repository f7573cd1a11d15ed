import Recurrence.Text.Quoted
import Recurrence.Value.Decimal

namespace Recurrence

/-- What can be written, but is nothing that a setting can be. -/
inductive Foreign where
  | infinity (negative : Bool)
  | notNumber
  /-- A text with half of a surrogate pair. -/
  | brokenText
  /-- A date, or a date with a time of day. -/
  | moment (shown : String)
  | bytes (isEmpty : Bool)
deriving DecidableEq, Repr

/-- How a message shows it. -/
def Foreign.shown : Foreign → String
  | infinity negative => if negative then "-inf" else "inf"
  | notNumber => "nan"
  | brokenText => "'\ufffd'"
  | moment shown => shown
  | bytes _ => "b''"

/-- A value of a configuration file or a request, whose type is known only when it is read. Maps keep the order in
    which their keys were written. -/
inductive Value where
  | null
  | bool (value : Bool)
  | int (value : Int)
  | real (value : Decimal)
  | text (value : String)
  | foreign (value : Foreign)
  | list (items : List Value)
  | map (entries : List (Value × Value))
deriving Inhabited

namespace Value

/-- The value of a number that is written with a point or an exponent. -/
def ofDecimal (number : Decimal) : Value :=
  match number.nearest? with
  | some kept => .real kept
  | none => .foreign (.infinity (number.digits < 0))

/-- How a message shows a value: texts are quoted, the rest is written plainly. -/
def shown : Value → String
  | .null => "None"
  | .bool true => "True"
  | .bool false => "False"
  | .int value => toString value
  | .real value => value.shown
  | .text value => Text.quoted value
  | .foreign value => value.shown
  | .list items => "[" ++ ", ".intercalate (shownItems items) ++ "]"
  | .map entries => "\x7b" ++ ", ".intercalate (shownEntries entries) ++ "\x7d"
where
  /-- The items of a list, each as a message shows it. -/
  shownItems : List Value → List String
    | [] => []
    | item :: rest => shown item :: shownItems rest
  /-- The entries of a map, each as a message shows it. -/
  shownEntries : List (Value × Value) → List String
    | [] => []
    | (key, value) :: rest => (shown key ++ ": " ++ shown value) :: shownEntries rest

/-- The name that messages give to a value's type. A date with a time of day is one that shows a clock. -/
def typeName : Value → String
  | .null => "NoneType"
  | .bool _ => "bool"
  | .int _ => "int"
  | .real _ | .foreign (.infinity _) | .foreign .notNumber => "float"
  | .text _ | .foreign .brokenText => "str"
  | .foreign (.moment shown) => if ':' ∈ shown.toList then "datetime.datetime" else "datetime.date"
  | .foreign (.bytes _) => "bytes"
  | .list _ => "list"
  | .map _ => "dict"

/-- The bare text of a value: a text stands for itself. -/
def plain : Value → String
  | .text value => value
  | value => value.shown

/-- Null, falsehood, zero and everything empty do not count as given. -/
def isTruthy : Value → Bool
  | .null => false
  | .bool value => value
  | .int value => value != 0
  | .real value => value.digits != 0
  | .text value => !value.isEmpty
  | .foreign (.bytes isEmpty) => !isEmpty
  | .foreign _ => true
  | .list items => !items.isEmpty
  | .map entries => !entries.isEmpty

/-- Whether a value is the text `name`. -/
def isText (name : String) : Value → Bool
  | .text value => value == name
  | _ => false

/-- The value that a map has under a key: the one written last. -/
def lookup? (name : String) (entries : List (Value × Value)) : Option Value :=
  (entries.reverse.find? (·.1.isText name)).map (·.2)

end Value

end Recurrence
