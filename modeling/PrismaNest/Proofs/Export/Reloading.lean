import PrismaNest.Export.Manifest
import PrismaNest.Proofs.Settings.Documents
import PrismaNest.Proofs.Workspace.Reading

/-! Manifests that are read back.

A manifest is written as a document, and a file with the ending `.json` is read as one. What is read
is the manifest with all its entries, at every width of the indentation. A folder at the path, also
one that is only made on the way there, would swallow the file.
-/

set_option autoImplicit false

namespace PrismaNest

open Workspace

/-! ### The entries of a manifest -/

namespace FileRecord

/-- What a record holds, by the keys of its document. -/
def entries (record : FileRecord) : SettingsEntries :=
  [(.text "relative_path", .text record.path), (.text "size_bytes", .int record.byteSize),
    (.text "line_count", .int record.lineCount), (.text "sha256", .text record.checksum)]

/-- The numbers of a record have no more digits than can be read. -/
structure IsShort (record : FileRecord) : Prop where
  byteSize : Json.IsShort record.byteSize
  lineCount : Json.IsShort record.lineCount

theorem toJson_readable {record : FileRecord} (short : record.IsShort) : record.toJson.Readable := by
  refine .object (by simp) fun entry member => ?_
  simp only [List.mem_cons, List.not_mem_nil, or_false] at member
  obtain rfl | rfl | rfl | rfl := member
  · exact .string _
  · exact .int short.byteSize
  · exact .int short.lineCount
  · exact .string _

end FileRecord

namespace Manifest

variable {manifest : Manifest}

/-- What a manifest holds, by the keys of its document. -/
def entries (manifest : Manifest) : SettingsEntries :=
  [(.text "generator_version", .text manifest.version),
    (.text "total_files", .int manifest.totalFiles), (.text "total_bytes", .int manifest.totalBytes),
    (.text "total_lines", .int manifest.totalLines),
    (.text "files", .list (manifest.files.map fun record => .mapping record.entries))]

/-- The numbers of a manifest have no more digits than can be read. -/
structure IsShort (manifest : Manifest) : Prop where
  totalFiles : Json.IsShort manifest.totalFiles
  totalBytes : Json.IsShort manifest.totalBytes
  totalLines : Json.IsShort manifest.totalLines
  files : ∀ record ∈ manifest.files, record.IsShort

theorem toJson_readable (short : manifest.IsShort) : manifest.toJson.Readable := by
  refine .object (by simp) fun entry member => ?_
  simp only [List.mem_cons, List.not_mem_nil, or_false] at member
  obtain rfl | rfl | rfl | rfl | rfl := member
  · exact .string _
  · exact .int short.totalFiles
  · exact .int short.totalBytes
  · exact .int short.totalLines
  · refine .array fun item listed => ?_
    obtain ⟨record, member, rfl⟩ := List.mem_map.mp listed
    exact FileRecord.toJson_readable (short.files record member)

theorem ofJson_toJson (manifest : Manifest) :
    Value.ofJson manifest.toJson = .mapping manifest.entries := by
  have items : ∀ files : List FileRecord, Value.ofItems (files.map FileRecord.toJson) =
      files.map fun record => .mapping record.entries := by
    intro files
    induction files with
    | nil => rfl
    | cons record files ih => rw [List.map_cons, Value.ofItems, ih]; rfl
  simp only [toJson, Value.ofJson, Value.ofEntries, items, entries]

-- None of the keys is the name of a section that holds settings.
theorem settingsAmong_entries (path : Path) (manifest : Manifest) :
    settingsAmong path manifest.entries = .ok manifest.entries :=
  rfl

/-- A manifest that was written to a file with the ending `.json` is read as it was, whatever its
texts hold and however it is indented. Only a folder at the path, or one that is made there on the
way, keeps a file from it that is moved into place. -/
theorem loadSettings_written (short : manifest.IsShort) (width : Nat) {given : String}
    {atomic : Bool} {before after : Workspace} {size : Nat}
    (named : (Path.ofText given).hasSuffix ".json" = true)
    (noFolder : atomic = true → ¬ before.MeetsFolder (Path.ofText given))
    (wrote : (Action.writeText (Path.ofText given) (manifest.render width) atomic).result before =
      (.ok size, after)) :
    (loadSettings given).result after = (.ok manifest.entries, after) := by
  obtain ⟨plain, there⟩ := Action.read_of_writeText noFolder wrote
  exact loadSettings_document (toJson_readable short) width named plain there (ofJson_toJson manifest)
    (settingsAmong_entries _ manifest)

/-- A path through a folder that is made first, and texts with quotes, line ends and letters from
everywhere. -/
theorem loadSettings_written_replaced :
    let before : Workspace := ⟨⟨[(["home"], .folder), (["home", "old.json"], .file "stale".toUTF8)]⟩,
      ["home"], .zero false, []⟩
    let manifest : Manifest := ⟨"1\r\n\"2\"\\", 1, -3, 10000000000000000000000,
      [⟨"a b/é😀.ts", 3, 0, "\x00\x1f\u2028"⟩]⟩
    ∃ size after,
      (Action.writeText (.ofText "new/../old.json") (manifest.render 3) true).result before =
        (.ok size, after) ∧
      (loadSettings "new/../old.json").result after = (.ok manifest.entries, after) := by
  intro before manifest
  have short : manifest.IsShort := by
    refine ⟨by decide, by decide, by decide, fun record member => ?_⟩
    rw [List.mem_singleton.mp member]
    exact ⟨by decide, by decide⟩
  have noFolder : ¬ before.MeetsFolder (.ofText "new/../old.json") :=
    Action.not_meetsFolder (by decide +kernel)
  have isOk : ((Action.writeText (.ofText "new/../old.json") (manifest.render 3) true).result
      before).1.isOk = true := by
    decide +kernel
  rcases wrote : (Action.writeText (.ofText "new/../old.json") (manifest.render 3) true).result
    before with ⟨failure | size, after⟩
  · rw [wrote] at isOk
    cases isOk
  · exact ⟨size, after, rfl, loadSettings_written short 3 (by decide +kernel) (fun _ => noFolder) wrote⟩

/-- A folder that is made on the way takes in the file, and there is nothing to read at the path. -/
theorem loadSettings_swallowed :
    let before : Workspace := ⟨⟨[(["home"], .folder)]⟩, ["home"], .zero false, []⟩
    let wrote := (Action.writeText (.ofText "a.json/../a.json") ((ofRecords []).render 2) true).result
      before
    before.tree.isFolderAt before.home (.ofText "a.json/../a.json") = false ∧
      (Path.ofText "a.json/../a.json").hasSuffix ".json" = true ∧ wrote.1.isOk = true ∧
      ((loadSettings "a.json/../a.json").result wrote.2).1.isOk = false := by
  decide +kernel

end Manifest

end PrismaNest
