import Recurrence.CommandLine.Refusal
import Recurrence.Text.Digit
import Recurrence.Text.Split

namespace Recurrence.CommandLine

/-- An option: what it means, its names, and whether it takes a value. A short name is a dash and a
    letter, a long one is two dashes and a word. -/
structure Switch (κ : Type) where
  meaning : κ
  names : List String
  takesValue : Bool := false

namespace Switch

variable {κ : Type}

/-- How messages name an option. -/
def title (switch : Switch κ) : String := "/".intercalate switch.names

/-- All names, in the order in which they are offered, each with its option. -/
def table (switches : List (Switch κ)) : List (String × Switch κ) :=
  switches.flatMap fun switch => switch.names.map fun name => (name, switch)

/-- The option with a name. -/
def named? (switches : List (Switch κ)) (name : String) : Option (Switch κ) :=
  ((table switches).find? (·.1 == name)).map (·.2)

end Switch

/-- What a word holds besides the name of an option. -/
inductive Attached where
  | nothing
  /-- Letters after a short name, where an equals sign may stand between. -/
  | joined (letters : List Char)
  /-- A text after an equals sign: one after a long name, or an empty one. -/
  | assigned (text : String)
deriving DecidableEq, Repr

/-- What a word is there for. -/
inductive Role (κ : Type) where
  | operand
  /-- Two dashes alone. -/
  | separator
  | option (switch : Switch κ) (attached : Attached)
  /-- It looks like an option, and there is no such option. -/
  | unknown

/-- A word with its role. -/
structure Word (κ : Type) where
  text : String
  role : Role κ

namespace Word

variable {κ : Type}

/-- Whether a text is a dash and a decimal number; a line feed at its end does not count. -/
def isNegativeNumber (text : List Char) : Bool :=
  match text with
  | '-' :: body =>
    let body := if body.getLast? = some '\n' then body.dropLast else body
    let (whole, fraction) := Text.cut '.' body
    if body.contains '.' then
      whole.all Text.isDigit && !fraction.isEmpty && fraction.all Text.isDigit
    else !whole.isEmpty && whole.all Text.isDigit
  | _ => false

/-- What a text has after its first equals sign. -/
def assignment (text : List Char) : Attached :=
  if text.contains '=' then .assigned (String.ofList (Text.cut '=' text).2) else .nothing

/-- What a text attaches to the name before its first equals sign. -/
def attachment (name : List Char) (text : String) : Attached :=
  match name, text.toList with
  | ['-', _], letter :: letters => .joined (letter :: letters)
  | _, _ => .assigned text

/-- The names that a text which is no whole name may stand for, with their options and what is attached
    to the text then. -/
def candidates (switches : List (Switch κ)) (text : List Char) :
    List (String × Switch κ × Attached) :=
  match text with
  | '-' :: '-' :: _ =>
    let beginning := (Text.cut '=' text).1
    ((Switch.table switches).filter fun entry => beginning.isPrefixOf entry.1.toList).map
      fun entry => (entry.1, entry.2, assignment text)
  | '-' :: letter :: letters =>
    ((Switch.table switches).filter fun entry => entry.1.toList == ['-', letter]).map
      fun entry => (entry.1, entry.2, .joined letters)
  | _ => []

/-- The role of a text that begins with a dash, is longer and is no whole name. -/
def roleOfPart (switches : List (Switch κ)) (text : String) : Except Refusal (Role κ) :=
  let characters := text.toList
  let name := (Text.cut '=' characters).1
  match assignment characters, Switch.named? switches (String.ofList name) with
  | .assigned value, some switch => .ok (.option switch (attachment name value))
  | _, _ =>
    match candidates switches characters with
    | [(_, switch, attached)] => .ok (.option switch attached)
    | [] =>
      .ok (if isNegativeNumber characters || characters.contains ' ' then .operand else .unknown)
    | several => .error (.ambiguous text (several.map (·.1)))

/-- The role of a text before any separator. It asks for an option if it is a name of it, alone or with a text
    attached: after an equals sign, or directly after the letter of a short name. A long name may be cut short as
    long as only one name begins so. Texts that look like negative numbers or hold a blank ask for none. -/
def roleOf (switches : List (Switch κ)) (text : String) : Except Refusal (Role κ) :=
  match text.toList, Switch.named? switches text with
  | '-' :: _, some switch => .ok (.option switch .nothing)
  | '-' :: _ :: _, none => roleOfPart switches text
  | _, _ => .ok .operand

/-- The words of a command line. -/
def ofTexts (switches : List (Switch κ)) : List String → Except Refusal (List (Word κ))
  | [] => .ok []
  | text :: rest =>
    if text = "--" then .ok (⟨text, .separator⟩ :: rest.map (⟨·, .operand⟩))
    else do
      let role ← roleOf switches text
      let words ← ofTexts switches rest
      return ⟨text, role⟩ :: words

theorem ofTexts_map_text {switches : List (Switch κ)} {texts : List String} {words : List (Word κ)}
    (hwords : ofTexts switches texts = .ok words) : words.map (·.text) = texts := by
  induction texts generalizing words with
  | nil => cases hwords; rfl
  | cons text rest ih =>
    rw [ofTexts] at hwords
    split at hwords
    · cases hwords
      simp [Function.comp_def]
    · cases hrole : roleOf switches text with
      | error refusal => simp [hrole, bind, Except.bind] at hwords
      | ok role =>
        cases hrest : ofTexts switches rest with
        | error refusal => simp [hrole, hrest, bind, Except.bind] at hwords
        | ok found =>
          simp [hrole, hrest, bind, Except.bind, pure, Except.pure] at hwords
          subst hwords
          simp [ih hrest]

end Word

end Recurrence.CommandLine
