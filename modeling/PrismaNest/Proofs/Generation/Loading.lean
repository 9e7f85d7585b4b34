import PrismaNest.Proofs.Generation.Stages
import PrismaNest.Proofs.Text.LineEnds
import PrismaNest.Proofs.Workspace.Reading

/-! How a schema file is written.

The same schema is loaded however the lines of its file end, and whether or not a byte order mark
stands in front. The mark is no part of a word, so it changes nothing for the scan of the blocks.
-/

set_option autoImplicit false

namespace PrismaNest

open Workspace Text PrismaNest.Action

/-- What may stand in front of the text in a file: nothing, or a byte order mark. -/
def Text.fileMarks : List (List Char) :=
  [[], ['\ufeff']]

theorem Text.isWordChar_byteOrderMark : isWordChar '\ufeff' = false := by decide +kernel

-- Neither kind of mark is, or holds, an end of a line.
theorem Text.normalizeLineEnds_fileMark {mark : List Char} (marked : mark ∈ fileMarks)
    (text : List Char) : normalizeLineEnds (mark ++ text) = mark ++ normalizeLineEnds text := by
  simp only [fileMarks, List.mem_cons, List.not_mem_nil, or_false] at marked
  obtain rfl | rfl := marked
  · rfl
  · exact normalizeLineEnds_cons (by decide) text

theorem Block.extractFrom_fileMark {keyword mark : List Char}
    (word : ∀ c ∈ keyword, isWordChar c = true) (named : keyword ≠ []) (marked : mark ∈ fileMarks)
    (text : List Char) : extractFrom keyword false (mark ++ text) = extractFrom keyword false text := by
  simp only [fileMarks, List.mem_cons, List.not_mem_nil, or_false] at marked
  obtain rfl | rfl := marked
  · rfl
  · have other : keyword.head? ≠ some '\ufeff' := by
      intro first
      have inside := word _ (List.mem_of_head? first)
      rw [isWordChar_byteOrderMark] at inside
      cases inside
    rw [List.singleton_append, extractFrom_cons_of_head? named other, isWordChar_byteOrderMark]

namespace Schema

variable {mark : List Char}

theorem ofText_fileMark (marked : mark ∈ fileMarks) (text : List Char) (source : Option String) :
    ofText (String.ofList (mark ++ text)) source = ofText (String.ofList text) source := by
  have models : Block.models (mark ++ text) = Block.models text :=
    Block.extractFrom_fileMark (List.all_eq_true.mp (by decide)) (by decide) marked text
  have enums : Block.enums (mark ++ text) = Block.enums text :=
    Block.extractFrom_fileMark (List.all_eq_true.mp (by decide)) (by decide) marked text
  simp only [ofText, enumsOf, String.toList_ofList, models, enums]

/-- However the lines of a schema end in its file, and whatever mark is in front, the schema of the
text is loaded. What was written to a path is read with a line feed for each of its line ends,
unless a folder at the path takes in the file that is moved there. -/
theorem load_anyLineEnds (text : String) :
    (∀ (given : String) (ending mark : List Char) (before : Workspace),
      '\r' ∉ text.toList → ending ∈ lineEnds → mark ∈ fileMarks →
      (Path.ofText given).hasNull = false →
      before.tree.read before.home (Path.ofText given) =
        .ok (String.ofList (mark ++ withLineEnds ending text.toList)).toUTF8 →
      ((load given).result before).1 = .ok (ofText text (some given))) ∧
    ∀ (path : Path) (atomic : Bool) (before after : Workspace) (size : Nat),
      (atomic = true → ¬ before.MeetsFolder path) →
      (writeText path text atomic).result before = (.ok size, after) →
      (readText path).result after =
        (.ok (String.ofList (feedsForReturns (joinPairs text.toList))), after) := by
  constructor
  · intro given ending mark before plain usual marked noNull there
    have read := readText_of_read noNull there
    rw [String.toList_ofList, normalizeLineEnds_fileMark marked,
      normalizeLineEnds_withLineEnds usual plain] at read
    rw [load_of_readText read, ofText_fileMark marked, String.ofList_toList]
  · intro path atomic before after size noFolder wrote
    obtain ⟨noNull, there⟩ := read_of_writeText noFolder wrote
    rw [readText_of_read noNull there, normalizeLineEnds_eq]

/-- A marked file with carriage returns before its line feeds, and a text in which line ends of all
kinds meet. -/
theorem load_anyLineEnds_marked :
    let content := "\ufeffmodel A \x7b\r\n  id Int\r\n\x7d".toUTF8
    let before : Workspace := ⟨⟨[(["home"], .folder), (["home", "a.prisma"], .file content)]⟩,
      ["home"], .zero false, []⟩
    ((load "a.prisma").result before).1 =
        .ok (ofText "model A \x7b\n  id Int\n\x7d" (some "a.prisma")) ∧
      ∃ size after, (writeText (.ofText "new/b.prisma") "a\r\r\nb\n\r" true).result before =
          (.ok size, after) ∧
        (readText (.ofText "new/b.prisma")).result after = (.ok "a\n\nb\n\n", after) := by
  intro content before
  constructor
  · refine (load_anyLineEnds "model A \x7b\n  id Int\n\x7d").1 "a.prisma" ['\r', '\n'] ['\ufeff'] before
      ?_ ?_ ?_ ?_ ?_
    · decide +kernel
    · decide
    · decide
    · decide +kernel
    · decide +kernel
  · have noFolder : ¬ before.MeetsFolder (.ofText "new/b.prisma") :=
      not_meetsFolder (by decide +kernel)
    have isOk : ((writeText (.ofText "new/b.prisma") "a\r\r\nb\n\r" true).result
        before).1.isOk = true := by
      decide +kernel
    rcases wrote : (writeText (.ofText "new/b.prisma") "a\r\r\nb\n\r" true).result before with
      ⟨failure | size, after⟩
    · rw [wrote] at isOk
      cases isOk
    · exact ⟨size, after, rfl, (load_anyLineEnds _).2 _ true _ _ _ (fun _ => noFolder) wrote⟩

/-- A folder takes in a file that is moved to its path, and there is nothing to read at the path. -/
theorem readText_swallowed :
    let before : Workspace := ⟨⟨[(["home"], .folder), (["home", "d"], .folder)]⟩, ["home"],
      .zero false, []⟩
    let wrote := (writeText (.ofText "d") "x" true).result before
    wrote.1.toOption = some 1 ∧ ((readText (.ofText "d")).result wrote.2).1.isOk = false := by
  decide +kernel

end Schema

end PrismaNest
