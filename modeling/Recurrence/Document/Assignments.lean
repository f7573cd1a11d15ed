import Recurrence.Text.Blank
import Recurrence.Text.Split

namespace Recurrence

/-- Names with their values, in order. A name may stand without a value. -/
abbrev Assignments := List (String × Option String)

namespace Assignments

/-- Puts a value under a name, in the place of the one that was there. -/
def put (name : String) (value : Option String) : Assignments → Assignments
  | [] => [(name, value)]
  | (key, old) :: rest =>
    if key = name then (name, value) :: rest else (key, old) :: put name value rest

/-- Blanks of one line. -/
def isLineBlank (c : Char) : Bool := Text.isBlank c && c != '\n' && c != '\r'

/-- A text without the blanks of the line at its start. -/
def skip (text : List Char) : List Char := text.dropWhile isLineBlank

/-- The rest of the text from the next line on. -/
def nextLine (text : List Char) : List Char := (text.dropWhile (· != '\n')).drop 1

/-- The characters between quotes, after the opening one, and what follows the closing one. A quote right
    after a backslash closes only where no later quote does. -/
def quotedBody (quote : Char) : (escaped : Bool) → List Char → Option (List Char × List Char)
  | _, [] => none
  | escaped, c :: rest =>
    if c = quote ∧ !escaped then some ([], rest)
    else
      match quotedBody quote (c == '\\') rest with
      | some (body, after) => some (c :: body, after)
      | none => if c = quote then some ([], rest) else none

/-- The escapes that are understood between double quotes. -/
def escapes : List (Char × Char) :=
  [('\\', '\\'), ('\'', '\''), ('"', '"'), ('a', '\x07'), ('b', '\x08'), ('f', '\x0c'),
    ('n', '\n'), ('r', '\r'), ('t', '\t'), ('v', '\x0b')]

/-- A quoted value with its escapes replaced; between single quotes only quotes and backslashes can be
    escaped. -/
def unescaped (quote : Char) : List Char → List Char
  | [] => []
  | '\\' :: c :: rest =>
    match escapes.find? (·.1 == c) with
    | some (_, meant) =>
      if quote = '"' ∨ c = '\\' ∨ c = '\'' then meant :: unescaped quote rest
      else '\\' :: c :: unescaped quote rest
    | none => '\\' :: c :: unescaped quote rest
  | c :: rest => c :: unescaped quote rest

/-- A value without quotes, up to a comment that has a blank before it. -/
def unquoted : (blank : Bool) → List Char → List Char
  | _, [] => []
  | blank, c :: rest => if blank && c == '#' then [] else c :: unquoted (Text.isBlank c) rest

/-- A value and what follows it. -/
def value? (text : List Char) : Option (List Char × List Char) :=
  match text with
  | [] => some ([], [])
  | c :: rest =>
    if c = '"' ∨ c = '\'' then
      (quotedBody c false rest).map fun (body, after) => (unescaped c body, after)
    else
      let line := text.takeWhile (· != '\n')
      some (Text.stripRight (unquoted false line), text.drop line.length)

/-- A name and what follows it. -/
def name? (text : List Char) : Option (List Char × List Char) :=
  match text with
  | '\'' :: rest =>
    let name := rest.takeWhile (· != '\'')
    match rest.drop name.length with
    | _ :: after => if name.isEmpty then none else some (name, after)
    | [] => none
  | text =>
    let name := text.takeWhile fun c => c != '=' && c != '#' && !Text.isBlank c
    if name.isEmpty then none else some (name, text.drop name.length)

/-- Leaves out the word that may stand before a name. -/
def skipExport (text : List Char) : List Char :=
  match Text.after? "export".toList text with
  | some rest => if (rest.head?.map isLineBlank).getD false then skip rest else text
  | none => text

/-- Whether the rest of the line holds nothing but blanks and a comment. -/
def lineIsOver (text : List Char) : Bool :=
  match skip text with
  | [] => true
  | c :: _ => c == '\n' || c == '#'

/-- What may stand after a name: an equals sign and a value, or nothing. -/
def given? (text : List Char) : Option (Option String × List Char) :=
  match text with
  | '=' :: rest => (value? (skip rest)).map fun (value, after) => (some (String.ofList value), after)
  | rest => some (none, rest)

/-- The assignment at the start of a text, if there is one, and the place up to which the text was read. -/
def assignment (text : List Char) : Option (String × Option String) × List Char :=
  match name? (skipExport text) with
  | none => (none, text)
  | some (name, rest) =>
    let rest := skip rest
    match given? rest with
    | none => (none, rest)
    | some (value, after) =>
      if lineIsOver after then (some (String.ofList name, value), after) else (none, after)

/-- The assignments of a text, line by line. -/
def readFrom : (fuel : Nat) → List Char → Assignments
  | 0, _ => []
  | fuel + 1, text =>
    match text.dropWhile Text.isBlank with
    | [] => []
    | body =>
      let (found, after) := assignment body
      found.toList ++ readFrom fuel (nextLine after)

/-- All assignments of a text, in order. Empty lines and comments do not count; what cannot be understood is
    passed over, up to the end of the line where reading it failed. -/
def read (text : String) : Assignments := readFrom (text.length + 1) text.toList

/-- A name in braces after a dollar sign at the start of a text, what stands for it where it has no value,
    and what follows the braces. -/
def reference? : List Char → Option (String × String × List Char)
  | '$' :: '\x7b' :: rest =>
    let name := rest.takeWhile fun c => c != '\x7d' && c != ':'
    match rest.drop name.length with
    | '\x7d' :: after => some (String.ofList name, "", after)
    | ':' :: '-' :: rest =>
      let default := rest.takeWhile (· != '\x7d')
      match rest.drop default.length with
      | _ :: after => some (String.ofList name, String.ofList default, after)
      | [] => none
    | _ => none
  | _ => none

/-- A text with its references replaced, after skipping the rest of one that has just been replaced. -/
def resolveFrom (valueOf? : String → Option String) : (skip : Nat) → List Char → List Char
  | _, [] => []
  | skip + 1, _ :: rest => resolveFrom valueOf? skip rest
  | 0, c :: rest =>
    match reference? (c :: rest) with
    | some (name, default, after) =>
      ((valueOf? name).getD default).toList ++
        resolveFrom valueOf? (rest.length - after.length) rest
    | none => c :: resolveFrom valueOf? 0 rest

/-- Assignments with the references in their values replaced, each name once. A reference means the value
    of the last assignment before it that has the name, or else what the name means `outside`; a name
    without a value means nothing. -/
def resolve (outside : String → Option String) (assignments : Assignments) : Assignments :=
  assignments.foldl (fun done (name, value) =>
    let valueOf? (wanted : String) : Option String :=
      match done.find? (·.1 == wanted) with
      | some (_, found) => some (found.getD "")
      | none => outside wanted
    put name (value.map fun text => String.ofList (resolveFrom valueOf? 0 text.toList)) done) []

end Assignments

end Recurrence
