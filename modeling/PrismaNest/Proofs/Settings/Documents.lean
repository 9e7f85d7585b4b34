import PrismaNest.Proofs.Json.Documents
import PrismaNest.Proofs.Workspace.Reading
import PrismaNest.Settings.File

/-! Settings files that hold a document as it is written.

Such a file is read as the entries of the document, at every width of its indentation.
-/

set_option autoImplicit false

namespace PrismaNest

open PrismaNest.Action

variable {document : Json} {path : Path} {all : SettingsEntries}

theorem Json.Readable.no_return_render (readable : document.Readable) (width : Nat) :
    '\r' ∉ (document.render width ++ "\n").toList := by
  have text : '\r' ∉ renderAt width 0 document := readable.no_return
  simp [render, text]

theorem settingsOfText_render (readable : document.Readable) (width : Nat)
    (named : path.hasSuffix ".json" = true) (mapping : Value.ofJson document = .mapping all) :
    settingsOfText path (document.render width ++ "\n") = settingsAmong path all := by
  have top : topLevel path (document.render width ++ "\n") = .ok all := by
    rw [topLevel, if_pos named, Json.ofText_render readable width]
    simp only [mapping]
  rw [settingsOfText, top]
  rfl

theorem loadSettings_document {given : String} {workspace : Workspace} {entries : SettingsEntries}
    (readable : document.Readable) (width : Nat)
    (named : (Path.ofText given).hasSuffix ".json" = true)
    (plain : (Path.ofText given).hasNull = false)
    (there : workspace.tree.read workspace.home (.ofText given) =
      .ok (document.render width ++ "\n").toUTF8)
    (mapping : Value.ofJson document = .mapping all)
    (chosen : settingsAmong (.ofText given) all = .ok entries) :
    (loadSettings given).result workspace = (.ok entries, workspace) := by
  have read : (readText (.ofText given)).result workspace =
      (.ok (document.render width ++ "\n"), workspace) := by
    rw [result_readText, plain, if_neg Bool.false_ne_true, there]
    simp only [Text.decodeUtf8_toUTF8, String.ofList_toList,
      Text.normalizeLineEnds_eq_self (readable.no_return_render width)]
  rw [loadSettings, result_bind, read]
  simp only [settingsOfText_render readable width named mapping, chosen]
  rfl

end PrismaNest
