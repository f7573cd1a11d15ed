namespace Recurrence.Text

/-- The fields of a text between the separators; there is always at least one. -/
def fields (separator : Char) : List Char → List (List Char)
  | [] => [[]]
  | c :: rest =>
    if c = separator then [] :: fields separator rest
    else
      match fields separator rest with
      | [] => [[c]]
      | field :: more => (c :: field) :: more

/-- What stands before the first separator and what stands after it; without a separator all stands
    before it. -/
def cut (separator : Char) (text : List Char) : List Char × List Char :=
  (text.takeWhile (· != separator), (text.dropWhile (· != separator)).drop 1)

/-- What follows `expected` at the start of a text. -/
def after? (expected text : List Char) : Option (List Char) :=
  if expected.isPrefixOf text then some (text.drop expected.length) else none

/-- The first result that a reader gives, tried at every place of the text from the left. -/
def searchFirst {α : Type} (read : List Char → Option α) : List Char → Option α
  | [] => read []
  | c :: rest =>
    match read (c :: rest) with
    | some found => some found
    | none => searchFirst read rest

/-- Replaces a pattern from the left, after skipping the rest of one that has just been replaced. -/
def replaceFrom (pattern replacement : List Char) : (skip : Nat) → List Char → List Char
  | _, [] => []
  | skip + 1, _ :: rest => replaceFrom pattern replacement skip rest
  | 0, c :: rest =>
    if pattern.isPrefixOf (c :: rest) && !pattern.isEmpty then
      replacement ++ replaceFrom pattern replacement (pattern.length - 1) rest
    else c :: replaceFrom pattern replacement 0 rest

/-- The text with every occurrence of a pattern replaced. -/
def replaceAll (pattern replacement : String) (text : String) : String :=
  String.ofList (replaceFrom pattern.toList replacement.toList 0 text.toList)

end Recurrence.Text
