import PrismaNest.Text.Lines
import PrismaNest.Workspace.Basic

/-! Reading and writing the files of a workspace.

A file is written by way of a temporary file in the same folder, which is then moved
into place; the folders on the way are made first. A file that is moved onto a
folder goes into that folder under the name it had.

What can go wrong lies in paths and in text that cannot be decoded. A file that was
opened is read or written to its end: a full disk or a failing device is not described.
-/

set_option autoImplicit false

namespace PrismaNest.Action

def checkPath (path : Path) : Action Unit :=
  if path.hasNull then fail .nullInPath else pure ()

/-- Whether there is a file at a path. A path with a name that is too long cannot be asked for. -/
def isFileAt (path : Path) : Action Bool := do
  let workspace ← get
  if path.hasNull then return false
  else
    match workspace.tree.locate workspace.home path with
    | .error .nameTooLong => fail (.file .nameTooLong path.toText)
    | _ => return workspace.tree.isFileAt workspace.home path

/-- Makes one folder, and says whether a folder above it was missing. A folder that exists
already will do. -/
def tryFolder (path : Path) : Action Bool := do
  checkPath path
  let workspace ← get
  match workspace.tree.makeFolder workspace.home path with
  | .ok tree =>
    set { workspace with tree }
    return true
  | .error .notFound => return false
  | .error fault =>
    if workspace.tree.isFolderAt workspace.home path then return true
    else fail (.file fault path.toText)

/-- Makes the folder at a path whose names are given from the last to the first, and the
folders above it. -/
def makeFoldersUp (root : String) : List String → Action Unit
  | [] => do
    let path : Path := ⟨root, []⟩
    if !(← tryFolder path) then fail (.file .notFound path.toText)
  | name :: above => do
    let path : Path := ⟨root, (name :: above).reverse⟩
    if !(← tryFolder path) then
      makeFoldersUp root above
      if !(← tryFolder path) then fail (.file .notFound path.toText)

def ensureFolder (path : Path) : Action Unit := do
  makeFoldersUp path.root path.names.reverse
  log .debug .files ("Ensured directory exists: " ++ path.toText)

/-- How many bytes a temporary name adds to the name of a file: two points, eight random
characters, and the ending. -/
def temporaryExtra : Nat := 14

/-- The temporary names for a file; the random part is left open, and only told apart. -/
def temporaryName (name : String) (attempt : Nat) : String :=
  "." ++ name ++ ".RANDOM" ++ (if attempt = 0 then "" else toString attempt) ++ ".tmp"

/-- Whether a temporary file for a name can be made in a folder: neither its name nor the path from
the top down to it may be too long. -/
def temporaryFits (folder : Location) (name : String) : Bool :=
  name.utf8ByteSize + temporaryExtra ≤ FileTree.maxNameSize &&
    (FileTree.locationText (folder ++ [name])).utf8ByteSize + temporaryExtra ≤ FileTree.maxPathSize

def isNameInUse (tree : FileTree) (name : String) : Bool :=
  tree.entries.any fun entry => entry.1.getLast? == some name

/-- The first temporary name that nothing in a tree has. -/
def freeName (tree : FileTree) (name : String) : String :=
  ((List.range (tree.entries.length + 1)).map (temporaryName name)).find?
    (fun candidate => !isNameInUse tree candidate) |>.getD ""

/-- Moves a file to a path, or into the folder that is there, unless it lies in that folder. A
file that cannot be moved is removed. -/
def moveFile (source : Location) (name : String) (path : Path) : Action Unit := do
  let workspace ← get
  let { tree, home, .. } := workspace
  match tree.content? source with
  | none => fail (.file .notFound (FileTree.locationText source))
  | some content =>
    let inside := path.under ⟨"", [name]⟩
    if tree.isFolderAt home path && (tree.at? home inside).isSome then
      set { workspace with tree := tree.erase source }
      fail (.occupied (path.toText ++ "/" ++ name))
    else
      let target := if tree.isFolderAt home path then inside else path
      match (tree.erase source).overwrite home target content with
      | .ok moved => set { workspace with tree := moved }
      | .error fault =>
        set { workspace with tree := tree.erase source }
        fail (.file fault target.toText)

/-- Writes a temporary file next to a path, and moves it there. -/
def writeThrough (path : Path) (content : ByteArray) : Action Unit := do
  let workspace ← get
  let { tree, home, .. } := workspace
  match tree.locate home path.parent with
  | .error fault => fail (.file fault path.parent.toText)
  | .ok folder =>
    checkPath path
    let name := freeName tree path.name
    if !temporaryFits folder path.name then
      fail (.file .nameTooLong (FileTree.locationText (folder ++ [name])))
    set { workspace with tree := tree.put (folder ++ [name]) (.file content) }
    moveFile (folder ++ [name]) name path

def writeInPlace (path : Path) (content : ByteArray) : Action Unit := do
  checkPath path
  let workspace ← get
  match workspace.tree.overwrite workspace.home path content with
  | .ok tree => set { workspace with tree }
  | .error fault => fail (.file fault path.toText)

/-- Writes a text file, replacing any file at the path; gives the number of bytes. -/
def writeText (path : Path) (text : String) (atomic : Bool) : Action Nat := do
  ensureFolder path.parent
  let content := text.toUTF8
  if atomic then writeThrough path content else writeInPlace path content
  log .debug .files ("Wrote " ++ toString content.size ++ " bytes to " ++ path.toText)
  return content.size

/-- Reads a text file. Its lines may end in any of the usual ways. -/
def readText (path : Path) : Action String := do
  checkPath path
  let workspace ← get
  match workspace.tree.read workspace.home path with
  | .error fault => fail (.file fault path.toText)
  | .ok bytes =>
    match Text.decodeUtf8 bytes with
    | .error fault => fail (.notUtf8 fault)
    | .ok text => return String.ofList (Text.normalizeLineEnds text.toList)

end PrismaNest.Action
