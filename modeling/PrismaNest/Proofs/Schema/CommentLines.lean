import PrismaNest.Proofs.Blocks.Comments
import PrismaNest.Proofs.Schema.Fields

/-! Schemas and comment lines.

A body is read without its comment lines, so only where blocks begin and end can a comment
line make a difference. Where it stays apart from keywords, headers and closing braces, a
text and what is left of it without comment lines give the same schema.
-/

set_option autoImplicit false

namespace PrismaNest

open Text

/-- Comment lines stay apart from the models and the enumerations of a text. -/
structure CommentsApart (text : List Char) : Prop where
  models : Block.CommentsApart "model".toList false (opensComment text) text
  enums : Block.CommentsApart "enum".toList false (opensComment text) text

theorem plainLine?_of_isCommentLine {line : List Char} (comment : isCommentLine (trim line) = true) :
    plainLine? line = none := by
  simp [plainLine?, comment]

-- Dropping comment lines from a body changes none of the lines that are read.
theorem bodyLines_dropComments (body : List Char) :
    bodyLines (dropComments false body) = bodyLines body := by
  obtain ⟨first, others, split⟩ := List.exists_cons_of_ne_nil (lines_ne_nil body)
  have plain : (others.filter fun line => !isCommentLine (trim line)).filterMap plainLine? =
      others.filterMap plainLine? := by
    rw [List.filterMap_filter]
    apply List.filterMap_congr
    intro line _
    cases comment : isCommentLine (trim line) with
    | true => exact (plainLine?_of_isCommentLine comment).symm
    | false => rfl
  rw [bodyLines_eq_filterMap, bodyLines_eq_filterMap, lines_dropComments split, split,
    if_neg Bool.false_ne_true, List.filterMap_cons, List.filterMap_cons, plain]

theorem Enumeration.ofBody_dropComments (name : String) (body : List Char) :
    Enumeration.ofBody name (dropComments false body) = Enumeration.ofBody name body := by
  rw [Enumeration.ofBody, Enumeration.ofBody, bodyLines_dropComments]

theorem Model.ofBody_dropComments (enumNames : List String) (name : String) (body : List Char) :
    Model.ofBody enumNames name (dropComments false body) = Model.ofBody enumNames name body := by
  rw [Model.ofBody, Model.ofBody, bodyLines_dropComments]

namespace Schema

theorem enumsOf_withoutCommentLines {text : List Char} (apart : CommentsApart text) :
    enumsOf (withoutCommentLines text) = enumsOf text := by
  rw [enumsOf, enumsOf, Block.enums, Block.enums, Block.extract, Block.extract,
    Block.extractFrom_withoutCommentLines (List.all_eq_true.mp (by decide)) (by decide) apart.enums, List.map_map]
  apply List.map_congr_left
  intro block _
  exact Enumeration.ofBody_dropComments _ _

/-- Comment lines that stay apart from the blocks can be left out of a text. -/
theorem ofText_withoutCommentLines {text : List Char} (apart : CommentsApart text)
    (source : Option String) :
    ofText (String.ofList (withoutCommentLines text)) source = ofText (String.ofList text) source := by
  simp only [ofText, String.toList_ofList]
  rw [enumsOf_withoutCommentLines apart, Block.models, Block.models, Block.extract, Block.extract,
    Block.extractFrom_withoutCommentLines (List.all_eq_true.mp (by decide)) (by decide) apart.models, List.map_map]
  congr 1
  apply List.map_congr_left
  intro block _
  exact Model.ofBody_dropComments _ _ _

/-- The text of a model whose body and whose end have comment lines with braces and keywords. -/
def commented : List Char :=
  "model A \x7b\n// model B \x7b\n id Int\n\x7d\n// \x7b\n".toList

/-- A comment line may hold a header and an opening brace. -/
theorem ofText_withoutCommentLines_commented :
    CommentsApart commented ∧ ofText (String.ofList (withoutCommentLines commented)) none =
      ofText (String.ofList commented) none := by
  have models : Block.CommentsApart "model".toList false (opensComment commented) commented := by
    have found : Block.read? "model".toList commented =
        some (⟨"A".toList, "\n// model B \x7b\n id Int\n".toList⟩, "\n// \x7b\n".toList) := by
      decide +kernel
    exact .take found (by decide +kernel) (Block.commentsApart_of_absent (by decide +kernel) _ _)
  have enums : Block.CommentsApart "enum".toList false (opensComment commented) commented :=
    Block.commentsApart_of_absent (by decide +kernel) _ _
  exact ⟨⟨models, enums⟩, ofText_withoutCommentLines ⟨models, enums⟩ none⟩

/-- A block is read out of comment lines, a brace in a comment line ends a block, and a comment
line behind a name hides one. -/
theorem comment_lines_are_scanned :
    ofText (String.ofList (withoutCommentLines "// model B \x7b\n//   id Int\n// \x7d\n".toList)) none ≠
        ofText "// model B \x7b\n//   id Int\n// \x7d\n" none ∧
      ofText (String.ofList (withoutCommentLines "model A \x7b\n  // \x7d\n  id Int\n\x7d\n".toList)) none ≠
        ofText "model A \x7b\n  // \x7d\n  id Int\n\x7d\n" none ∧
      ofText (String.ofList (withoutCommentLines "model A\n// note\n\x7b\n  id Int\n\x7d\n".toList)) none ≠
        ofText "model A\n// note\n\x7b\n  id Int\n\x7d\n" none := by
  refine ⟨?_, ?_, ?_⟩
  · decide +kernel
  · decide +kernel
  · decide +kernel

end Schema

end PrismaNest
