import PrismaNest.Artifact.Kind
import PrismaNest.Proofs.Files.Names
import PrismaNest.Proofs.Schema.Names
import PrismaNest.Proofs.Text.Lowering
import PrismaNest.Proofs.Text.Runs

/-! Where the artifacts of a model lie.

A path names the model's folder, the folders below it, and the file. Two artifacts have one
path only if they are of one kind and their models share a folder, and no artifact lies where
the base query does.
-/

set_option autoImplicit false

namespace PrismaNest

open Text

/-- A nonempty text of word characters and characters beyond ASCII. -/
structure IsLabel (text : String) : Prop where
  nonempty : text ≠ ""
  label : ∀ c ∈ text.toList, isLabelChar c = true

theorem IsLabel.lacks {text : String} (label : IsLabel text) {c : Char}
    (sign : isLabelChar c = false) : Lacks c text := by
  intro member
  rw [label.label c member] at sign
  cases sign

theorem IsLabel.isName {text : String} (label : IsLabel text) : IsName text := by
  have point : Lacks '.' text := label.lacks (by decide)
  refine ⟨label.nonempty, ?_, ?_, label.lacks (by decide)⟩
  · rintro rfl
    exact absurd point (by decide)
  · rintro rfl
    exact absurd point (by decide)

theorem IsLabel.slash_clear {text : String} (label : IsLabel text) :
    ∀ c ∈ text.toList, decide (c = '/') = false :=
  Lacks.decide_eq_false (label.lacks (by decide))

theorem isLabel_lower {name : String} (named : name ≠ "") (word : ∀ c ∈ name.toList, isWordChar c = true) :
    IsLabel (lower name) :=
  ⟨lower_ne_empty named, isLabelChar_of_mem_lower word⟩

theorem Model.Writable.isLabel_folderName {model : Model} (writable : model.Writable) :
    IsLabel model.folderName :=
  isLabel_lower writable.name.nonempty writable.name.word

namespace ArtifactKind

/-- The folders below the model's own that lead to an artifact. -/
def folders : ArtifactKind → List String
  | createDto | updateDto | searchDto => ["dto"]
  | entity => ["entities"]
  | service | controller | wiring => []

/-- The name of an artifact's file up to the extension. -/
def stem (folder : String) : ArtifactKind → String
  | createDto => "create-" ++ folder ++ ".dto"
  | updateDto => "update-" ++ folder ++ ".dto"
  | searchDto => "search-" ++ folder ++ ".dto"
  | entity => folder ++ ".entity"
  | service => folder ++ ".service"
  | controller => folder ++ ".controller"
  | wiring => folder ++ ".module"

/-- The names on the way to an artifact. -/
def place (folder extension : String) (kind : ArtifactKind) : List String :=
  (folder :: kind.folders) ++ [kind.stem folder ++ "." ++ extension]

theorem path_eq (folder extension : String) (kind : ArtifactKind) :
    kind.path folder extension = String.intercalate "/" (kind.place folder extension) := by
  apply String.toList_inj.mp
  cases kind <;> simp [path, place, folders, stem, String.intercalate_cons_cons]

-- After the model's folder, the path names the folders below it and the file.
theorem toList_path (folder extension : String) (kind : ArtifactKind) :
    (kind.path folder extension).toList = folder.toList ++
      '/' :: (String.intercalate "/" (kind.folders ++ [kind.stem folder ++ "." ++ extension])).toList := by
  cases kind <;> simp [path, folders, stem, String.intercalate_cons_cons]

-- Kinds whose paths are of one length differ where the names of their files start.
theorem path_inj {folder other extension : String} (label : IsLabel folder)
    (otherLabel : IsLabel other) {kind second : ArtifactKind}
    (same : kind.path folder extension = second.path other extension) :
    folder = other ∧ kind = second := by
  have spelled := congrArg String.toList same
  rw [toList_path, toList_path] at spelled
  obtain ⟨folders, -, below⟩ := split_first_inj (p := fun c => decide (c = '/')) label.slash_clear
    otherLabel.slash_clear (by decide) (by decide) spelled
  obtain rfl := String.toList_inj.mp folders
  refine ⟨rfl, ?_⟩
  have lengths := congrArg List.length below
  cases kind <;> cases second <;> simp [ArtifactKind.folders, stem, String.intercalate_cons_cons] at below lengths ⊢ <;> omega

theorem isName_of_mem_folders (kind : ArtifactKind) : ∀ name ∈ kind.folders, IsName name := by
  intro name member
  cases kind <;> simp only [folders, List.mem_singleton, List.not_mem_nil] at member
  all_goals
    subst member
    exact isName_of_length (by decide) (by decide)

theorem lacks_stem {folder : String} {c : Char} (absent : Lacks c folder)
    (plain : ∀ kind ∈ all, Lacks c (stem "" kind)) (kind : ArtifactKind) :
    Lacks c (kind.stem folder) := by
  have fixed := plain kind (mem_all kind)
  cases kind <;> simp only [stem, lacks_append] at fixed ⊢ <;> simp only [fixed, absent, and_self]

section
variable {folder extension : String} (label : IsLabel folder) (flat : Lacks '/' extension)
include label flat

theorem isName_file (kind : ArtifactKind) : IsName (kind.stem folder ++ "." ++ extension) := by
  apply isName_of_length
  · rw [← String.length_toList]
    cases kind <;> simp +arith [stem]
  · rw [lacks_append, lacks_append]
    exact ⟨⟨lacks_stem (label.lacks (by decide)) (by decide) kind, by decide⟩, flat⟩

theorem isName_of_mem_place (kind : ArtifactKind) :
    ∀ name ∈ kind.place folder extension, IsName name := by
  intro name member
  simp only [place, List.mem_append, List.mem_cons, List.not_mem_nil, or_false] at member
  rcases member with (rfl | below) | rfl
  · exact label.isName
  · exact kind.isName_of_mem_folders name below
  · exact kind.isName_file label flat

end

end ArtifactKind

/-- The names on the way to the base query. -/
def baseQueryPlace (extension : String) : List String :=
  ["common", "dto", "base-query.dto." ++ extension]

theorem baseQueryPath_eq (extension : String) :
    baseQueryPath extension = String.intercalate "/" (baseQueryPlace extension) := by
  unfold baseQueryPath baseQueryPlace
  simp [String.intercalate_cons_cons, ← String.toList_inj]

theorem isName_of_mem_baseQueryPlace {extension : String} (flat : Lacks '/' extension) :
    ∀ name ∈ baseQueryPlace extension, IsName name := by
  have file : IsName ("base-query.dto." ++ extension) := by
    apply isName_of_length
    · rw [← String.length_toList]
      simp +arith
    · rw [lacks_append]
      exact ⟨by decide, flat⟩
  have shared : ∀ name ∈ ["common", "dto"], IsName name := by
    intro name member
    have checked : ∀ name ∈ ["common", "dto"], 2 < name.length ∧ Lacks '/' name := by decide
    exact isName_of_length (checked name member).1 (checked name member).2
  exact List.forall_mem_append.mpr ⟨shared, List.forall_mem_singleton.mpr file⟩

theorem toList_baseQueryPath (extension : String) :
    (baseQueryPath extension).toList = "common".toList ++
      '/' :: (String.intercalate "/" ["dto", "base-query.dto." ++ extension]).toList := by
  rw [baseQueryPath_eq, baseQueryPlace, String.intercalate_cons_cons, String.toList_append,
    String.toList_append, List.append_assoc]
  rfl

-- In a folder with the name of the base query's, no path is as long as that of the base query.
theorem path_ne_baseQueryPath {folder : String} (label : IsLabel folder) (extension : String)
    (kind : ArtifactKind) : kind.path folder extension ≠ baseQueryPath extension := by
  intro same
  have flat : Lacks '/' "common" := by decide
  have spelled := congrArg String.toList same
  rw [ArtifactKind.toList_path, toList_baseQueryPath] at spelled
  obtain ⟨folders, -, below⟩ := split_first_inj (p := fun c => decide (c = '/')) label.slash_clear
    flat.decide_eq_false (by decide) (by decide) spelled
  have common : folder.toList.length = 6 := by
    rw [folders]
    rfl
  have lengths := congrArg List.length below
  cases kind <;>
    simp [ArtifactKind.folders, ArtifactKind.stem, String.intercalate_cons_cons] at lengths common <;>
    omega

end PrismaNest
