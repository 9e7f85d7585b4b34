import PrismaNest.Scaffold.Template
import PrismaNest.Text.Blank
import PrismaNest.Workspace.Files

/-! Writing the files of an empty resource.

All templates are read before the first file is written, so that a missing one leaves
nothing behind.
-/

set_option autoImplicit false

namespace PrismaNest

structure Scaffolding where
  name : String
  folder : Path
  files : List String
  deriving DecidableEq, Repr

namespace Scaffold

/-- The text of a template: the built-in one, or the one in a folder. -/
def template (templates : Option String) (file : ResourceFile) : Action String :=
  match templates.filter (· ≠ "") with
  | none => pure file.builtIn
  | some folder => Action.readText ((Path.ofText folder).under (.ofText file.template))

def renderAll (templates : Option String) (name : String) :
    List ResourceFile → Action (List (String × String))
  | [] => pure []
  | file :: rest => do
    let text ← template templates file
    let others ← renderAll templates name rest
    return (file.target name, Template.render text name) :: others

def writeAll (folder : Path) : List (String × String) → Action Unit
  | [] => pure ()
  | (path, content) :: rest => do
    let target := folder.under (.ofText path)
    let _ ← Action.writeText target content true
    Action.log .debug .scaffold ("Wrote " ++ target.toText)
    writeAll folder rest

/-- A name without the blanks around it, of which something must be left. -/
def resourceName (given : String) : Action String :=
  let name := String.ofList (Text.trim given.toList)
  if name = "" then Action.fail .blankName else pure name

/-- Writes the files of a resource into a folder with its name. -/
def run (given output : String) (templates : Option String) : Action Scaffolding := do
  let name ← resourceName given
  let folder := (Path.ofText output).under (.ofText name)
  let files ← renderAll templates name ResourceFile.all
  writeAll folder files
  Action.log .info .scaffold ("Resource " ++ name ++ " scaffolded into " ++ folder.toText ++ ".")
  return ⟨name, folder, files.map Prod.fst⟩

end Scaffold

end PrismaNest
