import PrismaNest.Proofs.Files.NormalPaths
import PrismaNest.Proofs.Workspace.Amounts

/-! Which paths failed writes name.

A write can fail at any folder on its way, at its temporary file and at its target. It never
names a path that leads to a file, except where that path would have to be the folder of what is
written.
-/

set_option autoImplicit false

namespace PrismaNest

open Text

/-- A failure of the file system that names another path, or none. -/
structure Failure.Spares (failure : Failure) (spared : Path) : Prop where
  ofFiles : failure.isOfFiles = true
  other : failure.path?.map Path.ofText ≠ some spared

theorem Failure.spares_file {path spared : Path} (normal : path.IsNormal) (apart : path ≠ spared)
    (fault : FileFault) : (Failure.file fault path.toText).Spares spared where
  ofFiles := rfl
  other := by
    rw [path?, Option.map_some, Path.ofText_toText normal]
    exact fun same => apart (Option.some.inj same)

namespace FileTree

variable {tree : FileTree} {home : Location} {path : Path}

theorem overwrite_of_isFileAt (found : tree.isFileAt home path = true) (content : ByteArray) :
    ∃ changed, tree.overwrite home path content = .ok changed := by
  obtain ⟨location, old, located, reached⟩ := isFileAt_iff.mp found
  exact ⟨tree.put location (.file content), by simp only [overwrite, located, reached]⟩

-- The text of a location ends in its last name.
theorem getLast?_names_locationText {name : String} (step : IsStep name) (folder : Location) :
    (Path.ofText (locationText (folder ++ [name]))).names.getLast? = some name := by
  obtain ⟨front, written⟩ : ∃ front, (locationText (folder ++ [name])).toList =
      front ++ '/' :: name.toList := by
    cases folder with
    | nil => exact ⟨[], by simp [locationText]⟩
    | cons first rest =>
      have joined := String.intercalate_append_of_ne_nil (s := "/") (List.cons_ne_nil first rest)
        (List.cons_ne_nil name [])
      refine ⟨("/" ++ String.intercalate "/" (first :: rest)).toList, ?_⟩
      rw [locationText, joined, String.intercalate_singleton]
      simp only [String.toList_append, List.append_assoc]
      rfl
  have alone : name.toList.splitOnP (· = '/') = [name.toList] :=
    List.splitOnP_eq_singleton step.noSlash.decide_eq_false
  have kept : [name].filter (fun name => name != "" && name != ".") = [name] :=
    Path.filter_steps (by simpa using step)
  simp only [Path.ofText, written]
  rw [List.splitOnP_append_cons _ _ (by decide), alone, List.map_append, List.filter_append,
    List.map_singleton, String.ofList_toList, kept, List.getLast?_concat]

-- A path that leads to a file ends in a name that is in use.
theorem isNameInUse_of_isFileAt (found : tree.isFileAt home path = true) {name : String}
    (down : name ≠ "..") (last : path.names.getLast? = some name) :
    Action.isNameInUse tree name = true := by
  obtain ⟨location, content, located, reached⟩ := isFileAt_iff.mp found
  obtain ⟨front, split⟩ := List.getLast?_eq_some_iff.mp last
  have there : location = resolve home ⟨path.root, front⟩ ++ [name] := by
    have led := eq_resolve_of_locate located
    have whole : path = ⟨path.root, front ++ [name]⟩ := by rw [← split]
    rw [whole, resolve_append, resolve_eq_append (by simpa using down)] at led
    exact led
  apply Action.isNameInUse_of_lookUp?
  rw [← there, reached, Option.isSome_some]

end FileTree

namespace Action

open Workspace

variable {α β : Type} {spared path : Path}

/-- Where a path leads to a file, an action leaves it so, and fails only with the file system
and without naming it. -/
def Spares (spared : Path) (action : Action α) : Prop :=
  ∀ before : Workspace, before.HasFile spared → before.Retains (action.result before).2 ∧
    ∀ failure, (action.result before).1 = .error failure → failure.Spares spared

theorem spares_pure (value : α) : Spares spared (pure value : Action α) :=
  fun before _ => ⟨.refl before, fun _ failed => nomatch failed⟩

theorem spares_fail {failure : Failure} (spares : failure.Spares spared) :
    Spares spared (fail failure : Action α) := by
  refine fun before _ => ⟨.refl before, fun other failed => ?_⟩
  cases failed
  exact spares

theorem spares_log (severity : Severity) (origin : Origin) (message : String) :
    Spares spared (log severity origin message) :=
  fun before _ => ⟨log_retains severity origin message before, fun _ failed => nomatch failed⟩

theorem Spares.bind {action : Action α} {next : α → Action β} (first : Spares spared action)
    (later : ∀ value, Spares spared (next value)) : Spares spared (action >>= next) := by
  intro before there
  obtain ⟨retained, spares⟩ := first before there
  rw [result_bind]
  rcases ran : action.result before with ⟨failure | value, middle⟩
  · rw [ran] at retained spares
    refine ⟨retained, fun other failed => ?_⟩
    cases failed
    exact spares failure rfl
  · rw [ran] at retained
    obtain ⟨further, sparesLater⟩ := later value middle (there.retained retained)
    exact ⟨retained.trans further, sparesLater⟩

theorem Spares.timed {action : Action α} (spares : Spares spared action) (label : String) :
    Spares spared (timed label action) := by
  intro before there
  obtain ⟨retained, named⟩ := spares before.clockRead there
  rw [result_timed]
  refine ⟨⟨retained.home, retained.tree⟩, fun failure failed => named failure ?_⟩
  rcases ran : action.result before.clockRead with ⟨_ | _, after⟩
  · rw [ran] at failed
    cases failed
    rfl
  · rw [ran] at failed
    cases failed

theorem tryFolder_spares (normal : path.IsNormal) (plain : path.hasNull = false)
    (apart : path ≠ spared) : Spares spared (tryFolder path) := by
  intro before there
  refine ⟨Adds.retains (tryFolder_grows path before), fun failure failed => ?_⟩
  simp only [result_tryFolder, plain, Bool.false_eq_true, ↓reduceIte] at failed
  split at failed
  · cases failed
  · cases failed
  · split at failed
    · cases failed
    · cases failed
      exact Failure.spares_file normal apart _

-- Where a folder above is missing, nothing has happened yet.
theorem tryFolder_missing {before after : Workspace}
    (missing : (tryFolder path).result before = (.ok false, after)) :
    after = before ∧ before.tree.locate before.home path = .error .notFound := by
  rw [result_tryFolder] at missing
  split at missing
  · cases missing
  · split at missing
    · cases missing
    · rename_i made
      cases missing
      refine ⟨rfl, ?_⟩
      rw [FileTree.makeFolder] at made
      split at made
      · rename_i located
        cases made
        exact located
      · split at made <;> cases made
    · split at missing <;> cases missing

theorem makeFolder_spares (normal : path.IsNormal) (plain : path.hasNull = false)
    (apart : path ≠ spared) : Spares spared (makeFolder path) := by
  refine (tryFolder_spares normal plain apart).bind fun made => ?_
  split
  · exact spares_fail (Failure.spares_file normal apart _)
  · exact spares_pure ()

theorem makeFoldersUp_spares {root : String} {upwards : List String}
    (normal : Path.IsNormal ⟨root, upwards.reverse⟩)
    (plain : Path.hasNull ⟨root, upwards.reverse⟩ = false)
    (apart : (⟨root, upwards.reverse⟩ : Path) ≠ spared) :
    Spares spared (makeFoldersUp root upwards) := by
  induction upwards with
  | nil => exact makeFolder_spares normal plain apart
  | cons name above ih =>
    have leading : above.reverse <+: (name :: above).reverse := by
      rw [List.reverse_cons]
      exact List.prefix_append _ _
    intro before there
    obtain ⟨retained, spares⟩ := tryFolder_spares normal plain apart before there
    rw [makeFoldersUp_cons, result_bind]
    rcases ran : (tryFolder ⟨root, (name :: above).reverse⟩).result before with
      ⟨failure | made, middle⟩
    · rw [ran] at retained spares
      refine ⟨retained, fun other failed => ?_⟩
      cases failed
      exact spares failure rfl
    · cases made with
      | true =>
        rw [ran] at retained
        exact ⟨retained, fun _ failed => nomatch failed⟩
      | false =>
        obtain ⟨rfl, missing⟩ := tryFolder_missing ran
        -- If the folder above were the file, the path would not just be missing.
        have aboveApart : (⟨root, above.reverse⟩ : Path) ≠ spared := by
          rintro rfl
          apply FileTree.locate_below_file there name
          rw [← missing, List.reverse_cons]
        have plainAbove : Path.hasNull ⟨root, above.reverse⟩ = false := by
          rw [Path.hasNull, List.any_eq_false] at plain ⊢
          exact fun name member => plain name (leading.subset member)
        have higher := ih (normal.of_prefix leading) plainAbove aboveApart
        exact (higher.bind fun _ => makeFolder_spares normal plain apart) middle there

theorem ensureFolder_spares (normal : path.IsNormal) (plain : path.hasNull = false)
    (apart : path ≠ spared) : Spares spared (ensureFolder path) := by
  refine (makeFoldersUp_spares ?_ ?_ ?_).bind fun _ => spares_log _ _ _
  all_goals rwa [List.reverse_reverse]

-- A file that is there can be written over.
theorem overwritten_spares {before : Workspace} (there : before.HasFile spared)
    (normal : path.IsNormal) {content : ByteArray} {failure : Failure}
    (failed : (before.overwritten path content).1 = .error failure) : failure.Spares spared := by
  rw [overwritten] at failed
  split at failed
  · cases failed
  · rename_i refused
    cases failed
    refine Failure.spares_file normal ?_ _
    rintro rfl
    obtain ⟨changed, written⟩ := FileTree.overwrite_of_isFileAt there content
    rw [written] at refused
    cases refused

theorem writeThrough_spares (normal : path.IsNormal) (plain : path.hasNull = false)
    (content : ByteArray) : Spares spared (writeThrough path content) := by
  intro before there
  refine ⟨writeThrough_retains path content before, fun failure failed => ?_⟩
  have flat : Lacks '/' path.name := by
    rw [Path.name]
    cases last : path.names.getLast? with
    | none => decide
    | some name => exact (normal.names name (List.mem_of_getLast? last)).noSlash
  have temporary := isName_freeName before.tree flat
  simp only [result_writeThrough, plain, Bool.false_eq_true, ↓reduceIte] at failed
  split at failed
  · rename_i refused
    cases failed
    refine Failure.spares_file normal.parent ?_ _
    rintro rfl
    obtain ⟨location, old, located, -⟩ := FileTree.isFileAt_iff.mp there
    rw [located] at refused
    cases refused
  · split at failed
    · cases failed
      refine ⟨rfl, fun same => ?_⟩
      -- The name that is too long is a free one, and the other path ends in a name in use.
      have last := FileTree.getLast?_names_locationText temporary.isStep ‹Location›
      rw [Option.some.inj same] at last
      have used := FileTree.isNameInUse_of_isFileAt there temporary.noStepBack last
      rw [(freeName_spec before.tree path.name).1] at used
      cases used
    · split at failed
      · split at failed
        · cases failed
          refine ⟨rfl, fun same => ?_⟩
          cases same
        · have inside : (path.under ⟨"", [freeName before.tree path.name]⟩).IsNormal :=
            normal.under ⟨.inl rfl, by simpa using temporary.isStep⟩
          exact overwritten_spares there inside failed
      · exact overwritten_spares there normal failed

theorem writeInPlace_spares (normal : path.IsNormal) (plain : path.hasNull = false)
    (content : ByteArray) : Spares spared (writeInPlace path content) := by
  intro before there
  refine ⟨writeInPlace_retains path content before, fun failure failed => ?_⟩
  simp only [result_writeInPlace, plain, Bool.false_eq_true, ↓reduceIte] at failed
  exact overwritten_spares there normal failed

theorem hasNull_parent (plain : path.hasNull = false) :
    path.parent.hasNull = false := by
  rw [Path.hasNull, List.any_eq_false] at plain ⊢
  exact fun name member => plain name (List.dropLast_subset _ member)

theorem writeText_spares (normal : path.IsNormal) (plain : path.hasNull = false)
    (apart : path.parent ≠ spared) (text : String) (atomic : Bool) :
    Spares spared (writeText path text atomic) := by
  rw [writeText_eq]
  refine (ensureFolder_spares normal.parent (hasNull_parent plain) apart).bind fun _ => ?_
  refine Spares.bind ?_ fun _ => (spares_log _ _ _).bind fun _ => spares_pure _
  cases atomic with
  | true => exact writeThrough_spares normal plain _
  | false => exact writeInPlace_spares normal plain _

/-- Whatever failure an action ends in is one of those allowed. -/
def FailsOnlyWith (allowed : Failure → Prop) (action : Action α) : Prop :=
  ∀ before failure, (action.result before).1 = .error failure → allowed failure

section
variable {allowed : Failure → Prop}

theorem failsOnlyWith_fail {failure : Failure} (fits : allowed failure) :
    FailsOnlyWith allowed (fail failure : Action α) := by
  intro before other failed
  cases failed
  exact fits

theorem OnlyLogs.failsOnlyWith {action : Action α} (logs : OnlyLogs action) :
    FailsOnlyWith allowed action := by
  intro before other failed
  exact (logs.not_failed (Prod.ext failed rfl)).elim

theorem FailsOnlyWith.bind {action : Action α} {next : α → Action β}
    (first : FailsOnlyWith allowed action) (later : ∀ value, FailsOnlyWith allowed (next value)) :
    FailsOnlyWith allowed (action >>= next) := by
  intro before other failed
  rcases of_result_bind_error (Prod.ext failed rfl) with early | ⟨value, middle, -, late⟩
  · exact first before other (by rw [early])
  · exact later value middle other (by rw [late])

theorem FailsOnlyWith.timed {action : Action α} (fails : FailsOnlyWith allowed action)
    (label : String) : FailsOnlyWith allowed (timed label action) := by
  intro before other failed
  rw [result_timed] at failed
  refine fails before.clockRead other ?_
  rcases ran : action.result before.clockRead with ⟨raised | value, after⟩
  · rw [ran] at failed
    cases failed
    rfl
  · rw [ran] at failed
    cases failed

end

/-- An action fails with the file system, if at all. -/
abbrev FailsWithFiles (action : Action α) : Prop :=
  FailsOnlyWith (fun failure => failure.isOfFiles = true) action

theorem tryFolder_failsWithFiles (plain : path.hasNull = false) : FailsWithFiles (tryFolder path) := by
  intro before failure failed
  simp only [result_tryFolder, plain, Bool.false_eq_true, ↓reduceIte] at failed
  split at failed
  · cases failed
  · cases failed
  · split at failed
    · cases failed
    · cases failed
      rfl

theorem makeFolder_failsWithFiles (plain : path.hasNull = false) : FailsWithFiles (makeFolder path) := by
  refine (tryFolder_failsWithFiles plain).bind fun made => ?_
  split
  · exact failsOnlyWith_fail rfl
  · exact (onlyLogs_pure ()).failsOnlyWith

theorem makeFoldersUp_failsWithFiles {root : String} {upwards : List String}
    (plain : Path.hasNull ⟨root, upwards.reverse⟩ = false) :
    FailsWithFiles (makeFoldersUp root upwards) := by
  induction upwards with
  | nil => exact makeFolder_failsWithFiles plain
  | cons name above ih =>
    have above_plain : Path.hasNull ⟨root, above.reverse⟩ = false := by
      rw [List.reverse_cons, Path.hasNull, List.any_append, Bool.or_eq_false_iff] at plain
      exact plain.1
    rw [makeFoldersUp_cons]
    refine (tryFolder_failsWithFiles plain).bind fun made => ?_
    split
    · exact (ih above_plain).bind fun _ => makeFolder_failsWithFiles plain
    · exact (onlyLogs_pure ()).failsOnlyWith

theorem ensureFolder_failsWithFiles (plain : path.hasNull = false) :
    FailsWithFiles (ensureFolder path) := by
  refine (makeFoldersUp_failsWithFiles ?_).bind fun _ => (onlyLogs_log _ _ _).failsOnlyWith
  rwa [List.reverse_reverse]

theorem result_ensureFolder_null (null : path.hasNull = true) (before : Workspace) :
    (ensureFolder path).result before = (.error .nullInPath, before) := by
  have made : (makeFoldersUp path.root path.names.reverse).result before =
      (.error .nullInPath, before) := by
    have same : (⟨path.root, path.names.reverse.reverse⟩ : Path) = path := by
      rw [List.reverse_reverse]
    generalize path.names.reverse = upwards at same
    cases upwards with
    | nil =>
      rw [List.reverse_nil] at same
      rw [makeFoldersUp, result_bind, same, result_tryFolder, if_pos null]
    | cons name above => rw [makeFoldersUp, result_bind, same, result_tryFolder, if_pos null]
  rw [ensureFolder, result_bind, made]

end Action

end PrismaNest
