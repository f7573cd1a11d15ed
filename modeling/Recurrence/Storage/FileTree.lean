import Recurrence.Storage.Path

namespace Recurrence

/-- Why a path cannot be used. -/
inductive StorageFault where
  /-- A folder on the way does not exist. -/
  | missing
  /-- A file stands on the way where a folder has to be. -/
  | belowFile
  /-- A file stands where a folder is to be made. -/
  | isFile
  /-- A folder stands where a file is to be written. -/
  | isFolder
  | nameTooLong
  /-- The path holds a character that no path can hold. -/
  | unnameable
deriving DecidableEq, Repr

/-- Files with their texts, folders, and the folder that relative paths start from. Files are known by the parts
    of their absolute paths; a folder exists if it was made or if a file lies below it. -/
structure FileTree where
  current : Path
  files : List (List String × String) := []
  folders : List (List String) := []
deriving DecidableEq, Repr

namespace FileTree

/-- The longest name of a file or a folder, in bytes. -/
def longestName : Nat := 255

/-- The longest path, in bytes. -/
def longestPath : Nat := 4095

/-- Whether a place is a folder. -/
def isFolder (tree : FileTree) (place : List String) : Bool :=
  place.isEmpty || tree.folders.any (place.isPrefixOf ·) ||
    tree.files.any fun file => place.isPrefixOf file.1 && place.length < file.1.length

/-- The text of the file at a place. -/
def fileAt? (tree : FileTree) (place : List String) : Option String :=
  (tree.files.find? (·.1 == place)).map (·.2)

/-- The place that a part of a path leads to from a folder. Double dots lead up. -/
def step (here : List String) (part : String) : Except StorageFault (List String) :=
  if part = ".." then .ok here.dropLast
  else if longestName < part.utf8ByteSize then .error .nameTooLong
  else .ok (here ++ [part])

/-- Refuses a path that is no path anywhere. -/
def checkName (path : Path) : Except StorageFault Unit :=
  if path.text.toList.contains '\x00' then .error .unnameable
  else if longestPath < path.text.utf8ByteSize then .error .nameTooLong
  else .ok ()

/-- The place that a path leads to, if all before its last part are folders. -/
def place (tree : FileTree) (path : Path) : Except StorageFault (List String) := do
  checkName path
  (tree.current.join path).parts.foldlM (fun here part =>
    if tree.isFolder here then step here part
    else if (tree.fileAt? here).isSome then .error .belowFile
    else .error .missing) []

/-- Whether anything is at the end of a path. Of a path that is too long this cannot be said. -/
def pathExists (tree : FileTree) (path : Path) : Except StorageFault Bool :=
  match tree.place path with
  | .ok place => .ok ((tree.fileAt? place).isSome || tree.isFolder place)
  | .error .nameTooLong => .error .nameTooLong
  | .error _ => .ok false

/-- The text of the file at the end of a path, if there is one. -/
def read? (tree : FileTree) (path : Path) : Except StorageFault (Option String) :=
  match tree.place path with
  | .ok place => .ok (tree.fileAt? place)
  | .error .unnameable => .error .unnameable
  | .error _ => .ok none

/-- Puts a text at a place, over what was there. -/
def write (tree : FileTree) (place : List String) (text : String) : FileTree :=
  if tree.files.any (·.1 == place) then
    { tree with files := tree.files.map fun file => if file.1 == place then (place, text) else file }
  else { tree with files := tree.files ++ [(place, text)] }

/-- Takes the file at a place away. -/
def remove (tree : FileTree) (place : List String) : FileTree :=
  { tree with files := tree.files.filter (·.1 != place) }

/-- Where a place is after what was at one place was moved to another. -/
def relocated (source target place : List String) : List String :=
  if source.isPrefixOf place then target ++ place.drop source.length else place

/-- Refuses a place that nothing can be moved to: no path leads there, or a folder is there. -/
def checkTarget (tree : FileTree) (target : List String) : Except StorageFault Unit := do
  checkName ⟨"/", target⟩
  if longestName < (target.getLastD "").utf8ByteSize then .error .nameTooLong
  else if tree.isFolder target then .error .isFolder
  else .ok ()

/-- The tree with all that was at one place, or below it, at another instead of the file there. -/
def relocate (tree : FileTree) (source target : List String) : FileTree :=
  { tree with
    files := (tree.remove target).files.map fun file => (relocated source target file.1, file.2)
    folders := tree.folders.map (relocated source target) }

/-- Moves what is at a place, if anything is, to another place, over the file that was there. -/
def move (tree : FileTree) (source target : List String) : Except StorageFault FileTree :=
  if (tree.fileAt? source).isSome || tree.isFolder source then
    (tree.checkTarget target).map fun _ => tree.relocate source target
  else .ok tree

/-- Adds a text to the end of the file at a place. -/
def append (tree : FileTree) (place : List String) (text : String) : FileTree :=
  tree.write place (((tree.fileAt? place).getD "") ++ text)

/-- Makes a folder at a place. -/
def addFolder (tree : FileTree) (place : List String) : FileTree :=
  if tree.isFolder place then tree else { tree with folders := tree.folders ++ [place] }

/-- Makes the folders that the parts of a path lead through, from a folder on. -/
def makeFrom (tree : FileTree) (here : List String) : List String → Except StorageFault FileTree
  | [] => .ok tree
  | part :: rest => do
    let next ← step here part
    if (tree.fileAt? next).isSome then
      throw (if rest.isEmpty then .isFile else .belowFile)
    (tree.addFolder next).makeFrom next rest

/-- Makes the folder at the end of a path and the folders on the way. -/
def makeFolder (tree : FileTree) (path : Path) : Except StorageFault FileTree := do
  checkName path
  tree.makeFrom [] (tree.current.join path).parts

/-- Opens the file at the end of a path for writing at its end, and says where it is. A file that is not
    there is made. -/
def openFile (tree : FileTree) (path : Path) : Except StorageFault (FileTree × List String) := do
  let place ← tree.place path
  if tree.isFolder place then throw .isFolder
  return (tree.append place "", place)

end FileTree

end Recurrence
