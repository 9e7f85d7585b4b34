import PrismaNest.Command.Generate
import PrismaNest.Command.Scaffold

/-! The program: which of the commands runs depends on the name it is called by.

The files below the working folder and those that arguments name are read into a
workspace, the command acts on it, and what has changed is written back.
-/

set_option autoImplicit false

namespace PrismaNest.Program

def skippedFolders : List String :=
  [".git", "node_modules"]

/-- The entries at a location and below it, if there is anything. -/
partial def load (location : Location) : IO (List (Location × Entry)) := do
  match ← (IO.FS.realPath (FileTree.locationText location)).toBaseIO with
  | .error _ => return []
  | .ok path =>
    if ← path.isDir then
      let mut entries := [(location, Entry.folder)]
      for child in ← path.readDir do
        let { type, .. } ← child.path.symlinkMetadata
        if !skippedFolders.contains child.fileName && type != .symlink then
          entries := entries ++ (← load (location ++ [child.fileName]))
      return entries
    else
      return [(location, Entry.file (← IO.FS.readBinFile path))]

def foldersAbove (location : Location) : List (Location × Entry) :=
  (List.range location.length).map fun count => (location.take count, Entry.folder)

/-- The locations that an argument may name: what it says, and what stands after an equals sign. -/
def namedLocations (home : Location) (argument : String) : List Location :=
  [argument, String.intercalate "=" ((argument.splitOn "=").drop 1)].map
    fun text => FileTree.resolve home (.ofText text)

/-- What is at some locations outside the working folder, and the folders above. -/
def loadOutside (home : Location) (locations : List Location) :
    IO (List (Location × Entry)) := do
  let outside := locations.filter fun location =>
    !home.isPrefixOf location && !location.isPrefixOf home
  return (← outside.mapM fun location => return foldersAbove location ++ (← load location)).flatten

def store (before after : FileTree) : IO Unit := do
  for (location, entry) in after.entries do
    let path := FileTree.locationText location
    match entry with
    | .folder => IO.FS.createDirAll path
    | .file content =>
      if ((before.content? location).map ByteArray.toList) != some content.toList then
        IO.FS.createDirAll (FileTree.locationText location.dropLast)
        IO.FS.writeBinFile path content

def run (command : Action Outcome) (arguments : List String) : IO UInt32 := do
  let home := (Path.ofText (← IO.currentDir).toString).names
  let outside ← loadOutside home (arguments.flatMap (namedLocations home))
  let tree : FileTree := ⟨foldersAbove home ++ (← load home) ++ outside⟩
  let (outcome, workspace) := command.result ⟨tree, home, .zero false, []⟩
  store tree workspace.tree
  match outcome with
  | .ok { status, stdout, stderr } =>
    (← IO.getStdout).putStr stdout
    (← IO.getStderr).putStr stderr
    return status.code.toUInt32
  | .error failure =>
    (← IO.getStderr).putStrLn failure.message
    return 1

end PrismaNest.Program

def main (arguments : List String) : IO UInt32 := do
  let program := (← IO.appPath).fileName.getD ""
  let command := if program = "nestgen-scaffold" then PrismaNest.ScaffoldCommand.run
    else PrismaNest.GenerateCommand.run
  PrismaNest.Program.run (command arguments) arguments
