import PrismaNest.Proofs.Export.Deliveries
import PrismaNest.Proofs.Workspace.Placing

/-! What some exports leave together.

After any number of exports into one folder, each file that has been written so far is at its
place, all folders on the way are there, and everything else is as it was at first. None of this
depends on the order of the writes or on how often a file is written, so workspaces in which the
same files have been written are alike. Only a file whose place is taken by a folder lies in that
folder, under a temporary name whose random part is left open.
-/

set_option autoImplicit false

namespace PrismaNest

open Workspace FileTree

/-- The place in a folder for a file of the folder's own name, under a temporary name. -/
def strayPlace (folder : Location) (attempt : Nat) : Location :=
  folder ++ [Action.temporaryName (folder.getLast?.getD "") attempt]

theorem strayPlace_inj {folder other : Location} {attempt second : Nat}
    (same : strayPlace folder attempt = strayPlace other second) : folder = other :=
  (List.append_inj' same rfl).1

/-- Files with plain paths, each its own, and none on the way to another. -/
structure FileSet.Separate (files : FileSet) : Prop where
  spelled : ∀ file ∈ files, ∃ names, Path.Spells names file.1
  single : (files.map Prod.fst).Nodup
  apart : ∀ file ∈ files, ∀ other ∈ files, ∀ names others, Path.Spells names file.1 →
    Path.Spells others other.1 → ¬ others <+: names.dropLast

namespace Exporter

variable {exporter : Exporter} {origin before after first second : Workspace}
  {all done others files : FileSet} {asked : Location}

/-- A file of the export finds a folder at its place: one that was there at first, or one on the
way of the output path. -/
def Strays (exporter : Exporter) (origin : Workspace) (path : String) : Prop :=
  origin.tree.isFolder (exporter.location origin.home path) = true ∨
    exporter.output.Crosses origin.home (exporter.location origin.home path)

instance (exporter : Exporter) (origin : Workspace) (path : String) :
    Decidable (exporter.Strays origin path) :=
  inferInstanceAs (Decidable (_ ∨ _))

/-- What is at a place after some files have been written. -/
inductive Explained (exporter : Exporter) (origin : Workspace) (done : FileSet) (after : Workspace)
    (asked : Location) : Prop where
  | unchanged (same : after.tree.lookUp? asked = origin.tree.lookUp? asked)
  | folder (crossed : exporter.Crossed origin.home done asked)
  | file (file : String × String) (member : file ∈ done) (proper : ¬ exporter.Strays origin file.1)
      (here : asked = exporter.location origin.home file.1)
  | stray (file : String × String) (member : file ∈ done) (strays : exporter.Strays origin file.1)
      (attempt : Nat) (here : asked = strayPlace (exporter.location origin.home file.1) attempt)
      (absent : origin.tree.lookUp? asked = none)
      (there : after.tree.lookUp? asked = some (.file file.2.toUTF8))

/-- Some files have been written, one after another, and nothing else has been done. -/
structure Settled (exporter : Exporter) (origin : Workspace) (done : FileSet) (after : Workspace) :
    Prop where
  home : after.home = origin.home
  written : ∀ file ∈ done, ¬ exporter.Strays origin file.1 →
    after.tree.lookUp? (exporter.location origin.home file.1) = some (.file file.2.toUTF8)
  strayed : ∀ file ∈ done, exporter.Strays origin file.1 → ∃ attempt,
    after.tree.lookUp? (strayPlace (exporter.location origin.home file.1) attempt) =
      some (.file file.2.toUTF8)
  folders : ∀ asked, exporter.Crossed origin.home done asked →
    after.tree.lookUp? asked = some .folder
  explained : ∀ asked, exporter.Explained origin done after asked

/-- Where a file is put: at its place, or in the folder there, where nothing has been yet. -/
inductive Aims (exporter : Exporter) (origin before : Workspace) (file : String × String) :
    Location → Prop where
  | right (proper : ¬ exporter.Strays origin file.1) :
      Aims exporter origin before file (exporter.location origin.home file.1)
  | astray (strays : exporter.Strays origin file.1) (attempt : Nat)
      (free : before.tree.lookUp? (strayPlace (exporter.location origin.home file.1) attempt) = none) :
      Aims exporter origin before file (strayPlace (exporter.location origin.home file.1) attempt)

/-- One file is put somewhere, and otherwise only folders on the way are made. -/
structure Puts (exporter : Exporter) (origin before : Workspace) (file : String × String)
    (place : Location) (after : Workspace) : Prop where
  home : after.home = before.home
  aims : exporter.Aims origin before file place
  here : after.tree.lookUp? place = some (.file file.2.toUTF8)
  folders : ∀ asked, (exporter.target file.1).parent.Crosses origin.home asked →
    after.tree.lookUp? asked = some .folder
  kept : ∀ asked entry, asked ≠ place → before.tree.lookUp? asked = some entry →
    after.tree.lookUp? asked = some entry
  elsewhere : ∀ asked, asked ≠ place → after.tree.lookUp? asked = before.tree.lookUp? asked ∨
    (exporter.target file.1).parent.Crosses origin.home asked

theorem Crossed.mono (subset : done ⊆ others) {home : Location}
    (crossed : exporter.Crossed home done asked) : exporter.Crossed home others asked := by
  obtain ⟨file, member, there⟩ := crossed
  exact ⟨file, subset member, there⟩

theorem Explained.mono (subset : done ⊆ others)
    (explained : exporter.Explained origin done after asked) :
    exporter.Explained origin others after asked := by
  cases explained with
  | unchanged same => exact .unchanged same
  | folder crossed => exact .folder (crossed.mono subset)
  | file file member proper here => exact .file file (subset member) proper here
  | stray file member strays attempt here absent there =>
    exact .stray file (subset member) strays attempt here absent there

theorem Explained.congr {later : Workspace} (explained : exporter.Explained origin done after asked)
    (same : later.tree.lookUp? asked = after.tree.lookUp? asked) :
    exporter.Explained origin done later asked := by
  cases explained with
  | unchanged old => exact .unchanged (same.trans old)
  | folder crossed => exact .folder crossed
  | file file member proper here => exact .file file member proper here
  | stray file member strays attempt here absent there =>
    exact .stray file member strays attempt here absent (same.trans there)

namespace Settled

theorem refl (exporter : Exporter) (origin : Workspace) : exporter.Settled origin [] origin where
  home := rfl
  written := fun _ member => nomatch member
  strayed := fun _ member => nomatch member
  folders := fun _ ⟨_, member, _⟩ => nomatch member
  explained := fun _ => .unchanged rfl

-- The order of the files does not matter, nor how often they are listed.
theorem congr (settled : exporter.Settled origin done after)
    (same : ∀ file, file ∈ others ↔ file ∈ done) : exporter.Settled origin others after where
  home := settled.home
  written := fun file member => settled.written file ((same file).mp member)
  strayed := fun file member => settled.strayed file ((same file).mp member)
  folders := fun asked crossed => settled.folders asked (crossed.mono fun _ => (same _).mp)
  explained := fun asked => (settled.explained asked).mono fun _ => (same _).mpr

theorem of_same_tree {later : Workspace} (settled : exporter.Settled origin done after)
    (tree : later.tree = after.tree) (home : later.home = after.home) :
    exporter.Settled origin done later where
  home := home.trans settled.home
  written := by
    rw [tree]
    exact settled.written
  strayed := by
    rw [tree]
    exact settled.strayed
  folders := by
    rw [tree]
    exact settled.folders
  explained := fun asked => (settled.explained asked).congr (by rw [tree])

end Settled

section
variable (separate : all.Separate)
include separate

theorem location_injOn {file other : String × String} (member : file ∈ all) (otherMember : other ∈ all)
    {home : Location} (same : exporter.location home file.1 = exporter.location home other.1) :
    file = other := by
  obtain ⟨names, spelled⟩ := separate.spelled file member
  obtain ⟨others, elsewhere⟩ := separate.spelled other otherMember
  rw [location_of_spells spelled, location_of_spells elsewhere] at same
  have paths : file.1 = other.1 := by
    rw [spelled.text, elsewhere.text, List.append_cancel_left same]
  exact List.inj_on_of_nodup_map separate.single member otherMember paths

-- A file that finds no folder at first never lies on the way of another file.
theorem not_crossed_of_not_strays (subset : done ⊆ all) {file : String × String} (member : file ∈ all)
    (proper : ¬ exporter.Strays origin file.1) :
    ¬ exporter.Crossed origin.home done (exporter.location origin.home file.1) := by
  rintro ⟨other, listed, crossed⟩
  obtain ⟨names, spelled⟩ := separate.spelled other (subset listed)
  obtain ⟨others, elsewhere⟩ := separate.spelled file member
  exact not_crosses_of_spells spelled elsewhere (fun passed => proper (.inr passed))
    (separate.apart other (subset listed) file member names others spelled elsewhere) crossed

-- No file comes to lie where another one strays to.
theorem location_ne_strayPlace {file other : String × String} (member : file ∈ all)
    (otherMember : other ∈ all) {home : Location} (attempt : Nat) :
    exporter.location home file.1 ≠ strayPlace (exporter.location home other.1) attempt := by
  intro same
  obtain ⟨names, spelled⟩ := separate.spelled file member
  obtain ⟨others, elsewhere⟩ := separate.spelled other otherMember
  refine separate.apart file member other otherMember names others spelled elsewhere ?_
  rw [strayPlace, location_of_spells spelled, location_of_spells elsewhere, List.append_assoc] at same
  rw [List.append_cancel_left same, List.dropLast_concat]

omit separate in
theorem name_target {path : String} {names : List String} (spelled : Path.Spells names path)
    (home : Location) : (exporter.target path).name = (exporter.location home path).getLast?.getD "" := by
  rw [Path.name, target_of_spells spelled, location_of_spells spelled,
    List.getLast?_append_of_ne_nil _ spelled.inside, List.getLast?_append_of_ne_nil _ spelled.inside]

-- A file finds a folder at its place exactly if it found one at first, or on the output path.
theorem isFolder_iff_strays {middle : Workspace} {file : String × String} (subset : done ⊆ all)
    (member : file ∈ all) (settled : exporter.Settled origin done before)
    (grown : before.GrowsAlong (exporter.target file.1).parent middle)
    (folders : ∀ asked, (exporter.target file.1).parent.Crosses origin.home asked →
      middle.tree.isFolder asked = true) :
    middle.tree.isFolder (exporter.location origin.home file.1) = true ↔
      exporter.Strays origin file.1 := by
  constructor
  · intro there
    by_contra proper
    have notOn := not_crossed_of_not_strays separate (List.cons_subset.mpr ⟨member, subset⟩) member proper
    have was : before.tree.isFolder (exporter.location origin.home file.1) = true := by
      rw [isFolder_iff] at there ⊢
      rcases grown.elsewhere (exporter.location origin.home file.1) List.not_mem_nil with
        same | ⟨-, -, crossed⟩
      · exact same.symm.trans there
      · rw [settled.home] at crossed
        exact absurd (Crossed.head crossed) notOn
    rw [isFolder_iff] at was
    cases settled.explained (exporter.location origin.home file.1) with
    | unchanged same => exact proper (.inl (isFolder_iff.mpr (same.symm.trans was)))
    | folder crossed => exact notOn crossed.tail
    | file other listed isProper here =>
      rw [here, settled.written other listed isProper] at was
      cases was
    | stray other listed strays attempt here absent there =>
      rw [there] at was
      cases was
  · intro strays
    rcases strays with there | passed
    · have kept : before.tree.lookUp? (exporter.location origin.home file.1) = some .folder := by
        rw [isFolder_iff] at there
        cases settled.explained (exporter.location origin.home file.1) with
        | unchanged same => exact same.trans there
        | folder crossed => exact settled.folders _ crossed
        | file other listed isProper here =>
          obtain rfl := location_injOn separate member (subset listed) here
          exact absurd (.inl (isFolder_iff.mpr there)) isProper
        | stray other listed strays attempt here absent _ =>
          rw [there] at absent
          cases absent
      rcases grown.elsewhere (exporter.location origin.home file.1) List.not_mem_nil with
        same | ⟨absent, -, -⟩
      · exact isFolder_iff.mpr (same.trans kept)
      · rw [kept] at absent
        cases absent
    · apply folders
      obtain ⟨names, spelled⟩ := separate.spelled file member
      obtain ⟨way, leading, reached⟩ := passed
      refine ⟨way, ?_, ?_⟩
      · rw [target_of_spells spelled]
        change way <+: (exporter.output.names ++ names).dropLast
        rw [List.dropLast_append_of_ne_nil spelled.inside]
        exact leading.trans (List.prefix_append _ _)
      · rw [target_of_spells spelled]
        exact reached

-- A write puts the file where it aims, and leaves everything else in its place.
theorem Settled.puts {size : Nat} {file : String × String} (subset : done ⊆ all)
    (member : file ∈ all) (settled : exporter.Settled origin done before)
    (wrote : (Action.writeText (exporter.target file.1) file.2 true).result before =
      (.ok size, after)) : ∃ place, exporter.Puts origin before file place after := by
  obtain ⟨middle, grown, folders, place, lands, gains⟩ := Action.writeText_ok wrote
  rw [settled.home] at folders lands
  change middle.tree.Lands (exporter.location origin.home file.1) _ place at lands
  obtain ⟨names, spelled⟩ := separate.spelled file member
  rw [name_target spelled origin.home] at lands
  have strays := isFolder_iff_strays separate subset member settled grown folders
  have made : ∀ asked entry, before.tree.lookUp? asked = some entry →
      middle.tree.lookUp? asked = some entry := by
    intro asked entry found
    rcases grown.elsewhere asked List.not_mem_nil with same | ⟨absent, -, -⟩
    · exact same.trans found
    · rw [found] at absent
      cases absent
  refine ⟨place, gains.home.trans grown.home, ?_, ?_, ?_, ?_, ?_⟩
  · cases lands with
    | atPlace clear =>
      refine .right fun strayed => ?_
      rw [strays.mpr strayed] at clear
      cases clear
    | inFolder there attempt free =>
      refine .astray (strays.mp there) attempt ?_
      by_contra found
      obtain ⟨entry, found⟩ := Option.ne_none_iff_exists'.mp found
      exact absurd (free.symm.trans (made _ _ found)) (by simp)
  · rw [gains.tree, if_pos rfl]
  · intro asked crossed
    have folder := isFolder_iff.mp (folders asked crossed)
    rw [gains.tree, if_neg, folder]
    rintro rfl
    cases lands with
    | atPlace clear => exact not_isFolder_iff.mp clear folder
    | inFolder there attempt free => exact absurd (free.symm.trans folder) (by simp)
  · intro asked entry other found
    rw [gains.tree, if_neg other]
    exact made asked entry found
  · intro asked other
    rw [gains.tree, if_neg other]
    rcases grown.elsewhere asked List.not_mem_nil with same | ⟨-, -, crossed⟩
    · exact .inl same
    · rw [settled.home] at crossed
      exact .inr crossed

section
variable {file : String × String} {place : Location} (subset : done ⊆ all) (member : file ∈ all)
  (settled : exporter.Settled origin done before) (puts : exporter.Puts origin before file place after)
include subset member settled puts

theorem Settled.written_put {other : String × String} (listed : other ∈ file :: done)
    (proper : ¬ exporter.Strays origin other.1) :
    after.tree.lookUp? (exporter.location origin.home other.1) = some (.file other.2.toUTF8) := by
  have inAll := List.cons_subset.mpr ⟨member, subset⟩ listed
  by_cases same : exporter.location origin.home other.1 = place
  · cases puts.aims with
    | right _ =>
      obtain rfl := location_injOn separate inAll member same
      exact puts.here
    | astray _ attempt _ => exact absurd same (location_ne_strayPlace separate inAll member attempt)
  · rcases List.mem_cons.mp listed with rfl | old
    · cases puts.aims with
      | right _ => exact absurd rfl same
      | astray strays _ _ => exact absurd strays proper
    · exact puts.kept _ _ same (settled.written other old proper)

theorem Settled.strayed_put {other : String × String} (listed : other ∈ file :: done)
    (strays : exporter.Strays origin other.1) : ∃ attempt,
    after.tree.lookUp? (strayPlace (exporter.location origin.home other.1) attempt) =
      some (.file other.2.toUTF8) := by
  rcases List.mem_cons.mp listed with rfl | old
  · cases puts.aims with
    | right proper => exact absurd strays proper
    | astray _ attempt _ => exact ⟨attempt, puts.here⟩
  · obtain ⟨attempt, found⟩ := settled.strayed other old strays
    refine ⟨attempt, puts.kept _ _ (fun same => ?_) found⟩
    cases puts.aims with
    | right _ => exact location_ne_strayPlace separate member (subset old) attempt same.symm
    | astray _ second free =>
      rw [same, free] at found
      cases found

theorem Settled.folders_put (crossed : exporter.Crossed origin.home (file :: done) asked) :
    after.tree.lookUp? asked = some .folder := by
  have notOn : ¬ exporter.Strays origin file.1 →
      ¬ exporter.Crossed origin.home (file :: done) (exporter.location origin.home file.1) :=
    not_crossed_of_not_strays separate (List.cons_subset.mpr ⟨member, subset⟩) member
  obtain ⟨other, listed, there⟩ := crossed
  rcases List.mem_cons.mp listed with rfl | old
  · exact puts.folders asked there
  · have folder := settled.folders asked ⟨other, old, there⟩
    refine puts.kept _ _ ?_ folder
    rintro rfl
    cases puts.aims with
    | right proper => exact notOn proper ⟨other, listed, there⟩
    | astray _ attempt free =>
      rw [free] at folder
      cases folder

omit separate member subset in
theorem Settled.explained_put (asked : Location) :
    exporter.Explained origin (file :: done) after asked := by
  by_cases same : asked = place
  · subst same
    have here := puts.here
    cases puts.aims with
    | right proper => exact .file file List.mem_cons_self proper rfl
    | astray strays attempt free =>
      refine .stray file List.mem_cons_self strays attempt rfl ?_ here
      -- Nothing that has been done before has freed the place.
      cases settled.explained (strayPlace (exporter.location origin.home file.1) attempt) with
      | unchanged old => exact old.symm.trans free
      | folder crossed =>
        rw [settled.folders _ crossed] at free
        cases free
      | file other listed proper reached =>
        rw [reached, settled.written other listed proper] at free
        cases free
      | stray other listed strayed second reached absent found => exact absent
  · rcases puts.elsewhere asked same with unchanged | crossed
    · exact ((settled.explained asked).congr unchanged).mono (List.subset_cons_self _ _)
    · exact .folder (Crossed.head crossed)

/-- One more file is put, anew or again. -/
theorem Settled.put : exporter.Settled origin (file :: done) after where
  home := puts.home.trans settled.home
  written := fun _ => settled.written_put separate subset member puts
  strayed := fun _ => settled.strayed_put separate subset member puts
  folders := fun _ => settled.folders_put separate subset member puts
  explained := settled.explained_put puts

end

theorem Settled.writeAll (real : exporter.dryRun = false) (atomic : exporter.atomic = true)
    (subset : done ⊆ all) (listed : files ⊆ all) (settled : exporter.Settled origin done before)
    (wrote : (exporter.writeAll files).result before = (.ok (), after)) :
    exporter.Settled origin (done ++ files) after := by
  induction files generalizing done before with
  | nil =>
    cases wrote
    rwa [List.append_nil]
  | cons file files ih =>
    obtain ⟨member, further⟩ := List.cons_subset.mp listed
    simp only [Exporter.writeAll, writeFile, real, atomic, Bool.false_eq_true, ↓reduceIte,
      Action.result_bind, Action.result_pure] at wrote
    rcases ran : (Action.writeText (exporter.target file.1) file.2 true).result before with
      ⟨failure | size, middle⟩
    · rw [ran] at wrote
      cases wrote
    · rw [ran] at wrote
      obtain ⟨place, puts⟩ := settled.puts separate subset member ran
      have more := ih (List.cons_subset.mpr ⟨member, subset⟩) further
        (settled.put separate subset member puts) wrote
      refine more.congr fun other => ?_
      simp only [List.mem_append, List.mem_cons]
      tauto

/-- An export without a manifest writes its files, whatever has been written before. -/
theorem Settled.run {result : ExportResult} (real : exporter.dryRun = false)
    (atomic : exporter.atomic = true) (bare : exporter.settings.writeManifest = false)
    (subset : done ⊆ all) (listed : files ⊆ all) (settled : exporter.Settled origin done before)
    (ran : (exporter.run files).result before = (.ok result, after)) :
    exporter.Settled origin (done ++ files) after := by
  obtain ⟨middle, last, wrote, noted, sameTree, sameHome⟩ := run_ok ran
  rw [writeManifest, bare, Bool.false_and, if_neg Bool.false_ne_true] at noted
  cases noted
  have perm := FileSet.sorted_perm files
  have sorted := settled.writeAll separate real atomic subset
    (fun _ member => listed (perm.mem_iff.mp member)) wrote
  refine (sorted.congr fun file => ?_).of_same_tree sameTree sameHome
  rw [List.mem_append, List.mem_append, perm.mem_iff]

end

/-- A folder where a file of the export should go. -/
def StrayFolder (exporter : Exporter) (origin : Workspace) (files : FileSet) (folder : Location) :
    Prop :=
  ∃ file ∈ files, exporter.Strays origin file.1 ∧ folder = exporter.location origin.home file.1

/-- Two trees are the same, but that files which have strayed into a folder may have other temporary
names there. -/
structure Alike (exporter : Exporter) (origin : Workspace) (files : FileSet)
    (first second : FileTree) : Prop where
  elsewhere : ∀ asked,
    (∀ folder attempt, exporter.StrayFolder origin files folder → asked ≠ strayPlace folder attempt) →
    first.lookUp? asked = second.lookUp? asked
  strayed : ∀ folder, exporter.StrayFolder origin files folder → ∀ entry,
    (∃ attempt, first.lookUp? (strayPlace folder attempt) = some entry) ↔
      ∃ attempt, second.lookUp? (strayPlace folder attempt) = some entry

-- Without such folders the trees are the same.
theorem Alike.lookUp?_eq {tree other : FileTree} (alike : exporter.Alike origin files tree other)
    (proper : ∀ file ∈ files, ¬ exporter.Strays origin file.1) (asked : Location) :
    tree.lookUp? asked = other.lookUp? asked := by
  refine alike.elsewhere asked ?_
  rintro folder attempt ⟨file, member, strays, -⟩
  exact absurd strays (proper file member)

-- What the one workspace holds, the other one holds there as well, or under another temporary name.
theorem Settled.carries {entry : Entry} (settled : exporter.Settled origin done first)
    (other : exporter.Settled origin done second) (found : first.tree.lookUp? asked = some entry) :
    second.tree.lookUp? asked = some entry ∨ ∃ folder attempt second',
      exporter.StrayFolder origin done folder ∧ asked = strayPlace folder attempt ∧
        second.tree.lookUp? (strayPlace folder second') = some entry := by
  have onPath : exporter.Crossed origin.home done asked → second.tree.lookUp? asked = some entry := by
    intro crossed
    rw [← found, settled.folders asked crossed, other.folders asked crossed]
  have atPlace : ∀ file ∈ done, ¬ exporter.Strays origin file.1 →
      asked = exporter.location origin.home file.1 → second.tree.lookUp? asked = some entry := by
    intro file member proper here
    rw [← found, here, settled.written file member proper, other.written file member proper]
  cases settled.explained asked with
  | unchanged same =>
    cases other.explained asked with
    | unchanged old => exact .inl (old.trans (same.symm.trans found))
    | folder crossed => exact .inl (onPath crossed)
    | file file member proper here => exact .inl (atPlace file member proper here)
    | stray file member strays attempt here absent there =>
      rw [same, absent] at found
      cases found
  | folder crossed => exact .inl (onPath crossed)
  | file file member proper here => exact .inl (atPlace file member proper here)
  | stray file member strays attempt here absent there =>
    obtain ⟨again, reached⟩ := other.strayed file member strays
    rw [there] at found
    cases found
    exact .inr ⟨_, attempt, again, ⟨file, member, strays, rfl⟩, here, reached⟩

theorem Settled.carries_strayed {folder : Location} {entry : Entry}
    (settled : exporter.Settled origin done first) (other : exporter.Settled origin done second)
    (found : ∃ attempt, first.tree.lookUp? (strayPlace folder attempt) = some entry) :
    ∃ attempt, second.tree.lookUp? (strayPlace folder attempt) = some entry := by
  obtain ⟨attempt, found⟩ := found
  rcases settled.carries other found with same | ⟨place, _, again, -, here, reached⟩
  · exact ⟨attempt, same⟩
  · rw [strayPlace_inj here]
    exact ⟨again, reached⟩

/-- Where the same files have been written, it does not matter how. -/
theorem Settled.alike (settled : exporter.Settled origin done first)
    (other : exporter.Settled origin done second) :
    exporter.Alike origin done first.tree second.tree where
  elsewhere := by
    intro asked aside
    refine Option.ext fun entry => ?_
    constructor
    · intro found
      rcases settled.carries other found with same | ⟨folder, attempt, _, stray, here, -⟩
      · exact same
      · exact absurd here (aside folder attempt stray)
    · intro found
      rcases other.carries settled found with same | ⟨folder, attempt, _, stray, here, -⟩
      · exact same
      · exact absurd here (aside folder attempt stray)
  strayed := fun _ _ _ => ⟨settled.carries_strayed other, other.carries_strayed settled⟩

end Exporter

end PrismaNest
