import PrismaNest.Export.Manifest
import PrismaNest.Number.Display

/-! Reports of generation runs. -/

set_option autoImplicit false

namespace PrismaNest

structure Step where
  name : String
  elapsed : Binary64
  detail : String
  deriving DecidableEq, Repr

structure Report where
  schemaFile : String := ""
  outputFolder : String := ""
  dryRun : Bool := false
  found : List String := []
  generated : List String := []
  /-- Requested names that the schema does not have. -/
  missing : List String := []
  totalFiles : Int := 0
  totalBytes : Int := 0
  totalLines : Int := 0
  elapsed : Binary64 := .zero false
  steps : List Step := []
  manifest : Option Manifest := none
  deriving DecidableEq, Repr

namespace Report

def files (report : Report) : List String :=
  match report.manifest with
  | none => []
  | some manifest => manifest.files.map FileRecord.path

def doubleRule : String :=
  String.ofList (List.replicate 60 '=')

def singleRule : String :=
  String.ofList (List.replicate 60 '─')

def Step.line (step : Step) : String :=
  "    ✓ " ++ padRight 20 step.name ++ " " ++ padLeft 7 (step.elapsed.toFixed 3) ++ "s  "
    ++ step.detail

def headLines (report : Report) : List String :=
  [doubleRule, "  nestgen - Generation Report", doubleRule,
   "  Schema:           " ++ report.schemaFile,
   "  Output:           " ++ report.outputFolder]

def countLines (report : Report) : List String :=
  ["  Models found:     " ++ toString report.found.length,
   "  Models generated: " ++ toString report.generated.length,
   "  Files generated:  " ++ toString report.totalFiles,
   "  Total lines:      " ++ grouped report.totalLines,
   "  Total bytes:      " ++ grouped report.totalBytes,
   "  Total time:       " ++ report.elapsed.toFixed 3 ++ "s"]

def section? (present : Bool) (lines : List String) : List String :=
  if present then singleRule :: lines else []

def summaryLines (report : Report) : List String :=
  report.headLines
    ++ (if report.dryRun then ["  Mode:             dry-run (nothing written)"] else [])
    ++ report.countLines
    ++ section? (!report.steps.isEmpty) ("  Pipeline Steps:" :: report.steps.map Step.line)
    ++ section? (!report.generated.isEmpty)
      ["  Generated: " ++ String.intercalate ", " report.generated]
    ++ section? (!report.missing.isEmpty)
      ["  Not in schema: " ++ String.intercalate ", " report.missing]
    ++ [doubleRule]

def summary (report : Report) : String :=
  String.intercalate "\n" report.summaryLines

end Report

end PrismaNest
