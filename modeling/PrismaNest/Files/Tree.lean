import PrismaNest.Entries
import PrismaNest.Files.Path

/-! Trees of files and folders.

A tree gives an entry to each location, a location being the names from the top
down. A path is followed name by name from the working folder; every name but the
last must lead to a folder that exists.

There are files and folders and nothing else: no links, whose `..` would lead away from
the folder they stand in, and no permissions, so whatever exists can be used.
-/

set_option autoImplicit false

namespace PrismaNest

/-- The names that lead to a place in a tree, from the top down. -/
abbrev Location := List String

inductive Entry where
  | file (content : ByteArray)
  | folder

/-- Why a path cannot be used as asked. -/
inductive FileFault where
  | notFound
  | exists
  | notDirectory
  | isDirectory
  | nameTooLong
  deriving DecidableEq, Repr

def FileFault.message : FileFault → String
  | .notFound => "[Errno 2] No such file or directory"
  | .exists => "[Errno 17] File exists"
  | .notDirectory => "[Errno 20] Not a directory"
  | .isDirectory => "[Errno 21] Is a directory"
  | .nameTooLong => "[Errno 36] File name too long"

structure FileTree where
  entries : List (Location × Entry)

namespace FileTree

def empty : FileTree :=
  ⟨[]⟩

/-- The entry at a location; the top is always a folder. -/
def lookUp? (tree : FileTree) (location : Location) : Option Entry :=
  if location = [] then some .folder else tree.entries.lookup location

def put (tree : FileTree) (location : Location) (entry : Entry) : FileTree :=
  ⟨putEntry location entry tree.entries⟩

def erase (tree : FileTree) (location : Location) : FileTree :=
  ⟨tree.entries.filter fun entry => entry.1 ≠ location⟩

def isFolder (tree : FileTree) (location : Location) : Bool :=
  match tree.lookUp? location with
  | some .folder => true
  | _ => false

def content? (tree : FileTree) (location : Location) : Option ByteArray :=
  match tree.lookUp? location with
  | some (.file content) => some content
  | _ => none

theorem lookUp?_put (tree : FileTree) (location asked : Location) (entry : Entry)
    (inside : asked ≠ []) :
    (tree.put location entry).lookUp? asked =
      if asked = location then some entry else tree.lookUp? asked := by
  simp [lookUp?, put, inside, lookup_putEntry]

/-- The most bytes that a name and a whole path may take. -/
def maxNameSize : Nat := 255
def maxPathSize : Nat := 4095

/-- Follows names from a location. The last one need not lead to anything. -/
def follow (tree : FileTree) (location : Location) : List String → Except FileFault Location
  | [] => .ok location
  | name :: rest =>
    if !tree.isFolder location then .error .notDirectory
    else if name = ".." then tree.follow location.dropLast rest
    else if maxNameSize < name.utf8ByteSize then .error .nameTooLong
    else if (tree.lookUp? (location ++ [name])).isNone && !rest.isEmpty then .error .notFound
    else tree.follow (location ++ [name]) rest

def locate (tree : FileTree) (home : Location) (path : Path) : Except FileFault Location :=
  if maxPathSize < path.toText.utf8ByteSize then .error .nameTooLong
  else tree.follow (if path.root = "" then home else []) path.names

/-- What a path leads to, if it can be followed and leads to anything. -/
def at? (tree : FileTree) (home : Location) (path : Path) : Option Entry :=
  match tree.locate home path with
  | .ok location => tree.lookUp? location
  | .error _ => none

def isFileAt (tree : FileTree) (home : Location) (path : Path) : Bool :=
  match tree.at? home path with
  | some (.file _) => true
  | _ => false

def isFolderAt (tree : FileTree) (home : Location) (path : Path) : Bool :=
  match tree.at? home path with
  | some .folder => true
  | _ => false

def read (tree : FileTree) (home : Location) (path : Path) : Except FileFault ByteArray :=
  match tree.locate home path with
  | .error fault => .error fault
  | .ok location =>
    match tree.lookUp? location with
    | none => .error .notFound
    | some .folder => .error .isDirectory
    | some (.file content) => .ok content

def makeFolder (tree : FileTree) (home : Location) (path : Path) : Except FileFault FileTree :=
  match tree.locate home path with
  | .error fault => .error fault
  | .ok location =>
    match tree.lookUp? location with
    | none => .ok (tree.put location .folder)
    | some _ => .error .exists

def overwrite (tree : FileTree) (home : Location) (path : Path) (content : ByteArray) :
    Except FileFault FileTree :=
  match tree.locate home path with
  | .error fault => .error fault
  | .ok location =>
    match tree.lookUp? location with
    | some .folder => .error .isDirectory
    | _ => .ok (tree.put location (.file content))

/-- A location without points and steps back. -/
def resolve (home : Location) (path : Path) : Location :=
  path.names.foldl (fun location name =>
    if name = ".." then location.dropLast else location ++ [name])
    (if path.root = "" then home else [])

def locationText (location : Location) : String :=
  "/" ++ String.intercalate "/" location

end FileTree

end PrismaNest
