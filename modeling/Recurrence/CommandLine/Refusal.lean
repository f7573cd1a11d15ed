import Recurrence.Text.Quoted

namespace Recurrence.CommandLine

/-- What is wrong with one argument. -/
inductive ArgumentFlaw where
  | valueMissing
  | valueUnwanted (text : String)
  | notOffered (text : String) (choices : List String)
  | notInteger (text : String)
  | belowOne (number : Int)
deriving DecidableEq, Repr

/-- The wording of a flaw. -/
def ArgumentFlaw.message : ArgumentFlaw → String
  | .valueMissing => "expected one argument"
  | .valueUnwanted text => s!"ignored explicit argument {Text.quoted text}"
  | .notOffered text choices =>
    let offer := ", ".intercalate (choices.map Text.quoted)
    s!"invalid choice: {Text.quoted text} (choose from {offer})"
  | .notInteger text => s!"invalid integer: {Text.quoted text}"
  | .belowOne number => s!"must be at least 1, got {number}"

/-- Why a command line is refused. -/
inductive Refusal where
  /-- A word begins the names of several options. -/
  | ambiguous (word : String) (names : List String)
  | argument (name : String) (flaw : ArgumentFlaw)
  | missing (names : List String)
  | unrecognized (words : List String)
deriving DecidableEq, Repr

/-- The wording of a refusal. -/
def Refusal.message : Refusal → String
  | .ambiguous word names =>
    let candidates := ", ".intercalate names
    s!"ambiguous option: {word} could match {candidates}"
  | .argument name flaw => s!"argument {name}: {flaw.message}"
  | .missing names =>
    let list := ", ".intercalate names
    s!"the following arguments are required: {list}"
  | .unrecognized words =>
    let list := " ".intercalate words
    s!"unrecognized arguments: {list}"

end Recurrence.CommandLine
