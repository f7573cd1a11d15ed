import Recurrence.Text.Split

namespace Recurrence

/-- A path: slashes at the start, then parts. Empty parts and single dots do not count, double dots stay as they
    are. The root is empty for a relative path. -/
structure Path where
  root : String
  parts : List String
deriving DecidableEq, Repr

namespace Path

/-- The root that slashes at the start of a text mean. Two slashes are kept, as they are allowed to have
    a meaning of their own. -/
def rootOf (text : List Char) : String :=
  match (text.takeWhile (· == '/')).length with
  | 0 => ""
  | 2 => "//"
  | _ => "/"

/-- The parts of a text that count. -/
def partsOf (text : List Char) : List String :=
  ((Text.fields '/' text).map String.ofList).filter fun part => part != "" && part != "."

/-- The path that a text writes. -/
def ofText (text : String) : Path := ⟨rootOf text.toList, partsOf text.toList⟩

/-- The written form; a path without root and parts is a single dot. -/
def text (path : Path) : String :=
  if path.root = "" ∧ path.parts = [] then "."
  else path.root ++ "/".intercalate path.parts

/-- Whether the path starts from the root. -/
def isAbsolute (path : Path) : Bool := path.root != ""

/-- A path below another; an absolute one stands for itself. -/
def join (base below : Path) : Path :=
  if below.isAbsolute then below else ⟨base.root, base.parts ++ below.parts⟩

/-- A path below another, given as text. -/
def child (base : Path) (below : String) : Path := base.join (ofText below)

/-- A tilde at the start stands for the home folder of the user whose name follows it, which may be
    unknown. -/
def expandHome (homeOf : String → Option Path) (path : Path) : Option Path :=
  if path.isAbsolute then some path
  else
    match path.parts with
    | [] => some path
    | first :: rest =>
      match first.toList with
      | '~' :: name => (homeOf (String.ofList name)).map fun home => ⟨home.root, home.parts ++ rest⟩
      | _ => some path

/-- The absolute path without double dots that is meant from a folder. -/
def absolute (folder path : Path) : Path :=
  let full := folder.join path
  ⟨full.root, full.parts.foldl (fun done part => if part = ".." then done.dropLast else done ++ [part]) []⟩

end Path

end Recurrence
