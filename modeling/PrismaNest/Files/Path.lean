import PrismaNest.Text.LowerCase

/-! Paths of files and folders.

A path is an optional root and the names on the way. Empty names and single points
are dropped when a path is read; two points, which lead back to the folder above,
are kept. The path without any name is written as a single point.
-/

set_option autoImplicit false

namespace PrismaNest

structure Path where
  /-- Nothing for a relative path; one slash, or two if exactly two open the path. -/
  root : String
  names : List String
  deriving DecidableEq, Repr

namespace Path

def rootOf (text : List Char) : String :=
  match text.takeWhile (· = '/') with
  | [] => ""
  | ['/', '/'] => "//"
  | _ => "/"

def ofText (text : String) : Path where
  root := rootOf text.toList
  names := ((text.toList.splitOnP (· = '/')).map String.ofList).filter
    fun name => name != "" && name != "."

def toText (path : Path) : String :=
  if path.root = "" && path.names.isEmpty then "."
  else path.root ++ String.intercalate "/" path.names

/-- A path taken from a folder; one with a root stands for itself. -/
def under (folder path : Path) : Path :=
  if path.root = "" then ⟨folder.root, folder.names ++ path.names⟩ else path

def parent (path : Path) : Path :=
  { path with names := path.names.dropLast }

/-- The last name of a path, or nothing if it has none. -/
def name (path : Path) : String :=
  path.names.getLast?.getD ""

/-- The ending of the last name, from its last point on; a point at either end of the name
starts none. -/
def suffix (path : Path) : String :=
  let reversed := path.name.toList.reverse
  let ending := reversed.takeWhile (· ≠ '.')
  let stem := (reversed.dropWhile (· ≠ '.')).drop 1
  if ending.isEmpty || stem.isEmpty then "" else "." ++ String.ofList ending.reverse

def hasSuffix (path : Path) (ending : String) : Bool :=
  Text.lower path.suffix = ending

def hasNull (path : Path) : Bool :=
  path.names.any fun name => name.toList.contains '\x00'

end Path

end PrismaNest
