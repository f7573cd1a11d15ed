import Recurrence.CommandLine.Word

namespace Recurrence.CommandLine

/-- Why reading ends before its end. -/
inductive Halt where
  | refused (refusal : Refusal)
  | version
  | help

/-- What a word of options asks for: options with their values, then one that lacks its value. The value
    of an option that takes none is empty. -/
structure Asked (κ : Type) where
  uses : List (κ × String) := []
  lacking : Option (Switch κ) := none

namespace Asked

variable {κ : Type}

/-- An option asked for before the others. -/
def after (asked : Asked κ) (switch : Switch κ) : Asked κ :=
  { asked with uses := (switch.meaning, "") :: asked.uses }

/-- An option alone. -/
def ofName (switch : Switch κ) : Asked κ :=
  if switch.takesValue then { lacking := some switch } else { uses := [(switch.meaning, "")] }

/-- The refusal of a text that an option has no use for. -/
def unwanted (switch : Switch κ) (text : String) : Refusal :=
  .argument switch.title (.valueUnwanted text)

/-- An option with a text after an equals sign. -/
def ofAssignment (switch : Switch κ) (text : String) : Except Refusal (Asked κ) :=
  if switch.takesValue then .ok { uses := [(switch.meaning, text)] }
  else .error (unwanted switch text)

/-- An option with letters after its short name: its value if it takes one, and more options if not. From
    a letter on that is no option, the rest is refused as a text that the option before it has no use
    for. -/
def ofLetters (switches : List (Switch κ)) (switch : Switch κ) :
    (letters : List Char) → Except Refusal (Asked κ)
  | [] => .ok (ofName switch)
  | letter :: rest =>
    if switch.takesValue then
      .ok { uses := [(switch.meaning, String.ofList (letter :: rest))] }
    else
      match Switch.named? switches (String.ofList ['-', letter]) with
      | none => .error (unwanted switch (String.ofList (letter :: rest)))
      | some next => (ofLetters switches next rest).map (·.after switch)

/-- An option with what is attached to it. -/
def ofAttached (switches : List (Switch κ)) (switch : Switch κ) :
    (attached : Attached) → Except Refusal (Asked κ)
  | .nothing => .ok (ofName switch)
  | .joined letters => ofLetters switches switch letters
  | .assigned text => ofAssignment switch text

end Asked

/-- How a command line is read. -/
structure Grammar (κ σ : Type) where
  switches : List (Switch κ)
  /-- What an option changes. -/
  apply : σ → κ → String → Except Halt σ
  /-- What a word changes that asks for no option, and which words are left over then. -/
  place : σ → Word κ → σ × List String
  /-- Whether all words that follow are placed, whatever they look like. -/
  isClosed : σ → Bool

/-- A command line that has been read in part: what was found, the option that waits for its value with
    those of the same word before it, and the words left over. -/
structure Reading (κ σ : Type) where
  found : σ
  waiting : Option (List (κ × String) × Switch κ) := none
  strays : List String := []

namespace Grammar

variable {κ σ : Type}

/-- The reading after options. -/
def applyAll (grammar : Grammar κ σ) (reading : Reading κ σ) (uses : List (κ × String)) :
    Except Halt (Reading κ σ) := do
  let found ← uses.foldlM (fun found use => grammar.apply found use.1 use.2) reading.found
  return { reading with found, waiting := none }

/-- The reading after a word that is placed. -/
def placed (grammar : Grammar κ σ) (reading : Reading κ σ) (word : Word κ) : Reading κ σ :=
  let (found, strays) := grammar.place reading.found word
  { reading with found, strays := reading.strays ++ strays }

/-- The reading after a word of options. -/
def ask (grammar : Grammar κ σ) (reading : Reading κ σ) (switch : Switch κ) (attached : Attached) :
    Except Halt (Reading κ σ) := do
  let asked ← (Asked.ofAttached grammar.switches switch attached).mapError .refused
  match asked.lacking with
  | some last => return { reading with waiting := some (asked.uses, last) }
  | none => grammar.applyAll reading asked.uses

/-- The refusal of an option that gets no value. -/
def valueMissing (switch : Switch κ) : Halt :=
  .refused (.argument switch.title .valueMissing)

/-- The reading after a word. An option that still lacks its value takes it as its value if it is an operand. -/
def step (grammar : Grammar κ σ) (reading : Reading κ σ) (word : Word κ) :
    Except Halt (Reading κ σ) :=
  match reading.waiting with
  | some (uses, switch) =>
    match word.role with
    | .operand => grammar.applyAll reading (uses ++ [(switch.meaning, word.text)])
    | _ => .error (valueMissing switch)
  | none =>
    if grammar.isClosed reading.found then .ok (grammar.placed reading word)
    else
      match word.role with
      | .option switch attached => grammar.ask reading switch attached
      | _ => .ok (grammar.placed reading word)

/-- What a command line comes to, read from left to right, with the words that are left over. -/
def read (grammar : Grammar κ σ) (start : σ) (texts : List String) :
    Except Halt (σ × List String) := do
  let words ← (Word.ofTexts grammar.switches texts).mapError .refused
  let reading ← words.foldlM grammar.step { found := start }
  match reading.waiting with
  | some (_, switch) => .error (valueMissing switch)
  | none => return (reading.found, reading.strays)

end Grammar

end Recurrence.CommandLine
