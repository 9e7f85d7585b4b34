import Mathlib.Data.List.Sort
import PrismaNest.Export.Writer
import PrismaNest.Proofs.Files.Locations

/-! Where the files of an export go.

Plain paths are written as names with single slashes between them. The export goes down their
names from the output folder, so that different plain paths lead to different locations, and
the folders made for one of them lie above it.
-/

set_option autoImplicit false

namespace PrismaNest

/-- A path as its names, each a step down, with single slashes between them. -/
structure Path.Spells (names : List String) (path : String) : Prop where
  inside : names ≠ []
  proper : ∀ name ∈ names, IsName name
  text : path = String.intercalate "/" names

namespace Path.Spells

variable {names others : List String} {path other : String}

theorem ofText (spelled : Spells names path) : Path.ofText path = ⟨"", names⟩ := by
  obtain ⟨first, rest, rfl⟩ := List.exists_cons_of_ne_nil spelled.inside
  rw [spelled.text, ofText_intercalate (fun name member => (spelled.proper name member).noSlash)
    (spelled.proper first List.mem_cons_self).nonempty, filter_names spelled.proper]

theorem unique (spelled : Spells names path) (again : Spells others path) : names = others :=
  Text.intercalate_inj "/" '/' rfl (fun name member => (spelled.proper name member).noSlash)
    (fun name member => (again.proper name member).noSlash) spelled.inside again.inside
    (spelled.text.symm.trans again.text)

-- A path comes before the paths below it.
theorem le_of_prefix (spelled : Spells names path) (longer : Spells others other)
    (above : names <+: others) : path ≤ other := by
  obtain ⟨rest, rfl⟩ := above
  have leading : path.toList <+: other.toList := by
    rw [spelled.text, longer.text]
    cases rest with
    | nil => simp
    | cons name rest =>
      rw [String.intercalate_append_of_ne_nil spelled.inside (List.cons_ne_nil name rest),
        String.toList_append, String.toList_append, List.append_assoc]
      exact List.prefix_append _ _
  exact List.IsPrefix.le leading

end Path.Spells

theorem spells_manifestName : Path.Spells [manifestName] manifestName where
  inside := List.cons_ne_nil _ _
  proper := by
    intro name member
    rw [List.mem_singleton.mp member]
    exact isName_of_length (by decide) (by decide)
  text := String.intercalate_singleton.symm

namespace Exporter

variable {exporter : Exporter} {home asked : Location} {names : List String} {path : String}

/-- All paths of an export: those of its files, and that of the manifest if it is written. -/
def paths (exporter : Exporter) (files : FileSet) : List String :=
  files.map Prod.fst ++ if exporter.settings.writeManifest then [manifestName] else []

theorem manifestName_mem_paths {files : FileSet} (asked : exporter.settings.writeManifest = true) :
    manifestName ∈ exporter.paths files := by
  rw [paths, if_pos asked]
  exact List.mem_append_right _ (List.mem_singleton_self manifestName)

/-- The location of a file of the export. -/
def location (exporter : Exporter) (home : Location) (path : String) : Location :=
  FileTree.resolve home (exporter.target path)

theorem target_of_spells (spelled : Path.Spells names path) :
    exporter.target path = ⟨exporter.output.root, exporter.output.names ++ names⟩ := by
  rw [target, spelled.ofText]
  rfl

theorem location_of_spells (spelled : Path.Spells names path) :
    exporter.location home path = FileTree.resolve home exporter.output ++ names := by
  rw [location, target_of_spells spelled, FileTree.resolve_append,
    FileTree.resolve_eq_append fun name member => (spelled.proper name member).noStepBack]

-- On the way to a file lie the output path and the folders above the file.
theorem crosses_target_parent (spelled : Path.Spells names path)
    (crossed : (exporter.target path).parent.Crosses home asked) :
    exporter.output.Crosses home asked ∨
      ∃ above, above <+: names.dropLast ∧ asked = FileTree.resolve home exporter.output ++ above := by
  obtain ⟨way, leading, rfl⟩ := crossed
  rw [target_of_spells spelled] at leading ⊢
  change way <+: (exporter.output.names ++ names).dropLast at leading
  rw [List.dropLast_append_of_ne_nil spelled.inside] at leading
  rcases List.prefix_or_prefix_of_prefix leading (List.prefix_append exporter.output.names _) with
    early | late
  · exact .inl ⟨way, early, rfl⟩
  · -- What goes beyond the output path are names of the file, and none of them steps back.
    obtain ⟨above, rfl⟩ := late
    have further := (List.prefix_append_right_inj _).mp leading
    refine .inr ⟨above, further, ?_⟩
    have down : ∀ name ∈ above, name ≠ ".." := fun name member =>
      (spelled.proper name (List.dropLast_subset names (further.subset member))).noStepBack
    exact (FileTree.resolve_append home _ _ above).trans (FileTree.resolve_eq_append down _)

-- No folder made on the way to a file comes to lie where another file goes, unless it lies
-- above the first.
theorem not_crosses_of_spells {others : List String} {other : String}
    (spelled : Path.Spells names path) (elsewhere : Path.Spells others other)
    (aside : ¬ exporter.output.Crosses home (exporter.location home other))
    (apart : ¬ others <+: names.dropLast) :
    ¬ (exporter.target path).parent.Crosses home (exporter.location home other) := by
  intro crossed
  rcases crosses_target_parent spelled crossed with early | ⟨above, leading, same⟩
  · exact aside early
  · rw [location_of_spells elsewhere] at same
    exact apart (List.append_cancel_left same ▸ leading)

-- A path that does not lie above another leads elsewhere.
theorem location_ne_of_spells {others : List String} {other : String}
    (spelled : Path.Spells names path) (elsewhere : Path.Spells others other)
    (apart : ¬ others <+: names) : exporter.location home path ≠ exporter.location home other := by
  intro same
  rw [location_of_spells spelled, location_of_spells elsewhere] at same
  exact apart (List.append_cancel_left same ▸ List.prefix_rfl)

/-- Making the folders for a file and writing it leaves the place of another file alone. -/
def LeavesAlone (exporter : Exporter) (home : Location) (path other : String) : Prop :=
  exporter.location home path ≠ exporter.location home other ∧
    ¬ (exporter.target path).parent.Crosses home (exporter.location home other)

theorem leavesAlone_of_spells {others : List String} {other : String}
    (spelled : Path.Spells names path) (elsewhere : Path.Spells others other)
    (aside : ¬ exporter.output.Crosses home (exporter.location home other))
    (apart : ¬ others <+: names) : exporter.LeavesAlone home path other := by
  refine ⟨location_ne_of_spells spelled elsewhere apart, ?_⟩
  exact not_crosses_of_spells spelled elsewhere aside fun below =>
    apart (below.trans (List.dropLast_prefix names))

/-- Once a file is written, another can still be put where it goes. Only a file that is moved to its
place is harmed by a folder there. -/
structure Apart (exporter : Exporter) (home : Location) (path other : String) : Prop where
  place : exporter.location home path ≠ exporter.location home other
  aside : exporter.atomic = true →
    ¬ (exporter.target path).parent.Crosses home (exporter.location home other)

theorem not_crosses_own (spelled : Path.Spells names path)
    (aside : ¬ exporter.output.Crosses home (exporter.location home path)) :
    ¬ (exporter.target path).parent.Crosses home (exporter.location home path) := by
  refine not_crosses_of_spells spelled spelled aside fun below => ?_
  have shorter := below.length_le
  have inside := List.length_pos_of_ne_nil spelled.inside
  rw [List.length_dropLast] at shorter
  omega

end Exporter

namespace FileSet

variable {files : FileSet}

/-- Files with plain paths, each its own, none of them the manifest or below it. -/
structure Plain (files : FileSet) : Prop where
  spelled : ∀ file ∈ files, ∃ names, Path.Spells names file.1 ∧ ¬ [manifestName] <+: names
  single : (files.map Prod.fst).Nodup

theorem sorted_perm (files : FileSet) : files.sorted.Perm files :=
  List.mergeSort_perm _ _

theorem sorted_ordered (files : FileSet) :
    files.sorted.Pairwise fun first second => first.1 ≤ second.1 := by
  have transitive : ∀ first second third : String × String, decide (first.1 ≤ second.1) = true →
      decide (second.1 ≤ third.1) = true → decide (first.1 ≤ third.1) = true := by
    intro first second third early late
    simp only [decide_eq_true_eq] at early late ⊢
    exact String.le_trans early late
  have total : ∀ first second : String × String,
      (decide (first.1 ≤ second.1) || decide (second.1 ≤ first.1)) = true := by
    intro first second
    simpa using String.le_total first.1 second.1
  simpa [sorted] using List.pairwise_mergeSort transitive total files

/-- The order by path. -/
def Earlier (first second : String × String) : Prop :=
  first.1 ≤ second.1

instance : DecidableRel Earlier :=
  fun first second => inferInstanceAs (Decidable (first.1 ≤ second.1))

instance : Std.Total Earlier :=
  ⟨fun first second => String.le_total first.1 second.1⟩

instance : IsTrans (String × String) Earlier :=
  ⟨fun _ _ _ before after => String.le_trans before after⟩

-- Where no path comes twice, there is only one order by path.
theorem sorted_eq (single : (files.map Prod.fst).Nodup) {listed : FileSet} (perm : listed.Perm files)
    (ordered : listed.Pairwise Earlier) : files.sorted = listed := by
  refine ((sorted_perm files).trans perm.symm).eq_of_pairwise ?_ (sorted_ordered files) ordered
  intro first second inSorted inListed before after
  have member := (sorted_perm files).mem_iff.mp inSorted
  have otherMember := perm.mem_iff.mp inListed
  exact List.inj_on_of_nodup_map single member otherMember (String.le_antisymm before after)

theorem sorted_eq_insertionSort (single : (files.map Prod.fst).Nodup) :
    files.sorted = files.insertionSort Earlier :=
  sorted_eq single (List.perm_insertionSort Earlier files) (List.pairwise_insertionSort Earlier files)

/-- Files with plain paths, each its own. -/
structure Spelled (files : FileSet) : Prop where
  names : ∀ file ∈ files, ∃ names, Path.Spells names file.1
  single : (files.map Prod.fst).Nodup

theorem Plain.toSpelled (plain : files.Plain) : files.Spelled where
  names := by
    intro file member
    obtain ⟨names, spelled, -⟩ := plain.spelled file member
    exact ⟨names, spelled⟩
  single := plain.single

-- In the order of their paths, no file stands in the way of a later one.
theorem Spelled.sorted_apart (spelled : files.Spelled) {exporter : Exporter} {home : Location}
    (aside : exporter.atomic = true →
      ∀ file ∈ files, ¬ exporter.output.Crosses home (exporter.location home file.1)) :
    files.sorted.Pairwise fun first second => exporter.Apart home first.1 second.1 := by
  have single : files.sorted.Pairwise fun first second => first.1 ≠ second.1 :=
    List.pairwise_map.mp (((sorted_perm files).map Prod.fst).nodup_iff.mpr spelled.single)
  have ordered := (sorted_ordered files).and single
  refine ordered.imp_of_mem fun {first second} listed later ⟨before, different⟩ => ?_
  have member := (sorted_perm files).mem_iff.mp later
  obtain ⟨names, way⟩ := spelled.names first ((sorted_perm files).mem_iff.mp listed)
  obtain ⟨others, elsewhere⟩ := spelled.names second member
  -- A later path above an earlier one would also come before it.
  have apart : ¬ others <+: names := fun above =>
    different (String.le_antisymm before (elsewhere.le_of_prefix way above))
  refine ⟨Exporter.location_ne_of_spells way elsewhere apart, fun atomic => ?_⟩
  exact (Exporter.leavesAlone_of_spells way elsewhere (aside atomic second member) apart).2

end FileSet

end PrismaNest
