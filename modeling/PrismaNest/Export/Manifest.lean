import PrismaNest.Data.Json.Printer
import PrismaNest.Text.Digest
import PrismaNest.Text.Lines

/-! Manifests: which files were written, with their sizes and checksums.

A manifest holds relative paths only, so that an unchanged schema gives the same
manifest wherever it is generated.
-/

set_option autoImplicit false

namespace PrismaNest

def generatorVersion : String := "0.2.0"

def manifestName : String := "nestgen-manifest.json"

structure FileRecord where
  path : String
  byteSize : Int
  lineCount : Int
  checksum : String
  deriving DecidableEq, Repr

namespace FileRecord

def ofContent (path content : String) : FileRecord where
  path
  byteSize := content.utf8ByteSize
  lineCount := Text.lineCount content
  checksum := Text.sha256 content.toUTF8

def toJson (record : FileRecord) : Json :=
  .object [("relative_path", .string record.path), ("size_bytes", .int record.byteSize),
    ("line_count", .int record.lineCount), ("sha256", .string record.checksum)]

end FileRecord

structure Manifest where
  version : String
  totalFiles : Int
  totalBytes : Int
  totalLines : Int
  files : List FileRecord
  deriving DecidableEq, Repr

namespace Manifest

def ofRecords (files : List FileRecord) : Manifest where
  version := generatorVersion
  totalFiles := files.length
  totalBytes := files.foldl (fun total file => total + file.byteSize) 0
  totalLines := files.foldl (fun total file => total + file.lineCount) 0
  files

def toJson (manifest : Manifest) : Json :=
  .object [("generator_version", .string manifest.version),
    ("total_files", .int manifest.totalFiles), ("total_bytes", .int manifest.totalBytes),
    ("total_lines", .int manifest.totalLines),
    ("files", .array (manifest.files.map FileRecord.toJson))]

/-- The text of a manifest file, with a given number of spaces per level. -/
def render (width : Nat) (manifest : Manifest) : String :=
  manifest.toJson.render width ++ "\n"

end Manifest

end PrismaNest
