import PrismaNest.Generation.Run
import PrismaNest.Proofs.Artifact.Ownership
import PrismaNest.Proofs.Gathering
import PrismaNest.Proofs.Schema.Names
import PrismaNest.Proofs.Workspace.Actions

/-! Collisions of folders.

A run has the seven files of each folder once, all of them from the model that comes last
there. Each time a model takes over a folder it is reported, with the model that had the
folder until then; so where nothing is reported, the files of every model are there.
A report has its names between quotes, and the names of a schema hold none, so it tells
which takeover it is about.
-/

set_option autoImplicit false

namespace PrismaNest

open Text

/-- The model at a position takes its folder over from an earlier one: no model in between
has that folder. -/
def TakesOver (models : List Model) (position : Nat) (collision : Collision) : Prop :=
  ∃ before owner between model after,
    models = (before ++ owner :: between) ++ model :: after ∧
      position = (before ++ owner :: between).length ∧ owner.folderName = model.folderName ∧
      (∀ other ∈ between, other.folderName ≠ model.folderName) ∧
      collision = ⟨owner.name, model.name, model.folderName⟩

def Collision.event (collision : Collision) : Event :=
  ⟨.warning, .artifacts, collision.message⟩

namespace Collision

/-- The message of a collision in pieces, which have quotes between them. -/
def pieces (collision : Collision) : List (List Char) :=
  ["Models ".toList, collision.earlier.toList, " and ".toList, collision.later.toList,
    " both map to folder ".toList, collision.folder.toList ++ ['/'], "; ".toList,
    collision.later.toList, " overwrites the files of ".toList, collision.earlier.toList, ['.']]

/-- A collision whose names can stand between quotes. -/
structure Quotable (collision : Collision) : Prop where
  earlier : Lacks '\'' collision.earlier
  later : Lacks '\'' collision.later
  folder : Lacks '\'' collision.folder

theorem toList_message (collision : Collision) :
    collision.message.toList = ['\''].intercalate collision.pieces := by
  unfold message
  simp [pieces, List.intercalate]

theorem Quotable.pieces {collision : Collision} (quotable : collision.Quotable) :
    ∀ piece ∈ collision.pieces, '\'' ∉ piece := by
  have constant : '\'' ∉ "Models ".toList ∧ '\'' ∉ " and ".toList ∧
      '\'' ∉ " both map to folder ".toList ∧ '\'' ∉ ['/'] ∧ '\'' ∉ "; ".toList ∧
      '\'' ∉ " overwrites the files of ".toList ∧ '\'' ∉ ['.'] := by
    decide
  obtain ⟨models, both, folder, slash, next, files, stop⟩ := constant
  simp only [Collision.pieces, List.forall_mem_cons, List.mem_append, not_or]
  exact ⟨models, quotable.earlier, both, quotable.later, folder, ⟨quotable.folder, slash⟩, next,
    quotable.later, files, quotable.earlier, stop, List.forall_mem_nil _⟩

-- Between its quotes, a message has the names of both models and of the folder.
theorem Quotable.splitOn_message {collision : Collision} (quotable : collision.Quotable) :
    collision.message.toList.splitOn '\'' = collision.pieces := by
  rw [toList_message, List.splitOn_intercalate _ quotable.pieces (List.cons_ne_nil _ _)]

theorem Quotable.eq_of_message {collision other : Collision} (quotable : collision.Quotable)
    (otherQuotable : other.Quotable) (same : collision.message = other.message) :
    collision = other := by
  have pieces : collision.pieces = other.pieces := by
    rw [← quotable.splitOn_message, same, otherQuotable.splitOn_message]
  obtain ⟨earlier, later, folder⟩ := collision
  obtain ⟨otherEarlier, otherLater, otherFolder⟩ := other
  simp only [Collision.pieces, List.cons.injEq, String.toList_inj, List.append_cancel_right_eq] at pieces
  obtain ⟨-, rfl, -, rfl, -, rfl, -⟩ := pieces
  rfl

end Collision

theorem TakesOver.quotable {text : String} {source : Option String} {models : List Model}
    (selected : ∀ model ∈ models, model ∈ (Schema.ofText text source).models) {position : Nat}
    {collision : Collision} (taken : TakesOver models position collision) : collision.Quotable := by
  obtain ⟨before, owner, between, model, after, rfl, -, -, -, rfl⟩ := taken
  have ownerWritable := Schema.writable_of_mem_models (selected owner (by simp))
  have writable := Schema.writable_of_mem_models (selected model (by simp))
  exact ⟨ownerWritable.name.lacks (by decide), writable.name.lacks (by decide),
    writable.isLabel_folderName.lacks (by decide)⟩

/-- Among models of a schema, a warning tells which model takes over which folder from which
other. -/
theorem TakesOver.eq_of_event {text : String} {source : Option String} {models : List Model}
    (selected : ∀ model ∈ models, model ∈ (Schema.ofText text source).models)
    {position second : Nat} {collision other : Collision} (taken : TakesOver models position collision)
    (otherTaken : TakesOver models second other) (same : collision.event = other.event) :
    collision = other :=
  (taken.quotable selected).eq_of_message (otherTaken.quotable selected) (congrArg Event.message same)

theorem collision?_eq_some_iff {earlier : List Model} {model : Model} {collision : Collision} :
    collision? earlier model = some collision ↔ ∃ before owner between,
      earlier = before ++ owner :: between ∧ owner.folderName = model.folderName ∧
        (∀ other ∈ between, other.folderName ≠ model.folderName) ∧
        collision = ⟨owner.name, model.name, model.folderName⟩ := by
  simp only [collision?, folderOwner?, Option.map_map, Option.map_eq_some_iff,
    List.find?_eq_some_iff_append, decide_eq_true_eq]
  constructor
  · rintro ⟨owner, ⟨shared, between, before, split, apart⟩, rfl⟩
    refine ⟨before.reverse, owner, between.reverse, ?_, shared, ?_, rfl⟩
    · simpa using congrArg List.reverse split
    · simpa using apart
  · rintro ⟨before, owner, between, rfl, shared, apart, rfl⟩
    refine ⟨owner, ⟨shared, between.reverse, before.reverse, ?_, ?_⟩, rfl⟩
    · simp
    · simpa using apart

-- The collision at each position, if the model there takes a folder over.
theorem collisionsAfter_eq (earlier models : List Model) :
    collisionsAfter earlier models = (List.range models.length).filterMap fun position =>
      models[position]?.bind (collision? (earlier ++ models.take position)) := by
  induction models generalizing earlier with
  | nil => rfl
  | cons model models ih =>
    rw [collisionsAfter, ih, List.length_cons, List.range_succ_eq_map, List.filterMap_cons,
      List.filterMap_map]
    have shifted : ((fun position => (model :: models)[position]?.bind
        (collision? (earlier ++ (model :: models).take position))) ∘ Nat.succ) =
        fun position => models[position]?.bind
          (collision? (earlier ++ [model] ++ models.take position)) := by
      funext position
      simp
    rw [shifted]
    cases found : collision? earlier model <;> simp [found]

theorem gathers_collisions (models : List Model) :
    Gathers (TakesOver models) (List.range models.length) (collisions models) := by
  rw [collisions, collisionsAfter_eq]
  apply gathers_filterMap
  · intro position collision found
    obtain ⟨model, there, taken⟩ := Option.bind_eq_some_iff.mp found
    obtain ⟨inside, rfl⟩ := List.getElem?_eq_some_iff.mp there
    obtain ⟨before, owner, between, split, shared, apart, rfl⟩ := collision?_eq_some_iff.mp taken
    rw [List.nil_append] at split
    refine ⟨before, owner, between, models[position], models.drop (position + 1), ?_, ?_, shared,
      apart, rfl⟩
    · rw [← split, List.getElem_cons_drop, List.take_append_drop]
    · rw [← split, List.length_take, Nat.min_eq_left inside.le]
  · rintro position collision ⟨before, owner, between, model, after, rfl, rfl, shared, apart, rfl⟩
    have taken := collision?_eq_some_iff.mpr ⟨before, owner, between, rfl, shared, apart, rfl⟩
    rw [List.getElem?_append_right le_rfl, Nat.sub_self, List.take_left' rfl, List.nil_append,
      List.getElem?_cons_zero, Option.bind_some, taken]
    exact Option.some_ne_none _

-- Where no model takes a folder over, each is the last in its own.
theorem comesLast_of_gathers_nil {models : List Model}
    (nothing : Gathers (TakesOver models) (List.range models.length) []) {model : Model}
    (member : model ∈ models) : ComesLast models model := by
  obtain ⟨before, after, rfl⟩ := List.mem_iff_append.mp member
  refine ⟨before, after, rfl, fun later inside shared => ?_⟩
  -- The first model after it with the same folder would take it over.
  have again : (after.find? fun other => decide (other.folderName = model.folderName)).isSome := by
    rw [List.find?_isSome]
    exact ⟨later, inside, decide_eq_true shared⟩
  obtain ⟨taker, first⟩ := Option.isSome_iff_exists.mp again
  obtain ⟨same, between, rest, rfl, apart⟩ := List.find?_eq_some_iff_append.mp first
  have same := of_decide_eq_true same
  have taken : TakesOver (before ++ model :: (between ++ taker :: rest))
      (before ++ model :: between).length ⟨model.name, taker.name, taker.folderName⟩ := by
    refine ⟨before, model, between, taker, rest, by simp, rfl, same.symm, ?_, rfl⟩
    intro other otherMember
    rw [same]
    simpa using apart other otherMember
  exact nothing.none_of_nil _ (List.mem_range.mpr (by simp)) _ taken

namespace CodeWriter

/-- A line for each model, and before it the collision that it makes, if it makes one. -/
def rendering (earlier : List Model) : List Model → List Event
  | [] => []
  | model :: rest => (collision? earlier model).toList.map Collision.event
      ++ ⟨.debug, .artifacts, "Generated all files for model '" ++ model.name ++ "': "
        ++ toString ArtifactKind.all.length ++ " files."⟩ :: rendering (earlier ++ [model]) rest

theorem result_logRendering (earlier models : List Model) (workspace : Workspace) :
    (logRendering earlier models).result workspace =
      (.ok (), { workspace with events := workspace.events ++ rendering earlier models }) := by
  induction models generalizing earlier workspace with
  | nil => simp [logRendering, rendering]
  | cons model models ih =>
    rw [logRendering, rendering]
    cases collision? earlier model <;> simp [ih, Collision.event]

-- Nothing but collisions is warned of.
theorem filter_rendering (earlier models : List Model) :
    (rendering earlier models).filter (·.severity = .warning) =
      (collisionsAfter earlier models).map Collision.event := by
  induction models generalizing earlier with
  | nil => rfl
  | cons model models ih =>
    rw [rendering, collisionsAfter]
    cases collision? earlier model <;> simp [ih, Collision.event]

/-- The last event of a rendering. -/
def renderingDone (models : List Model) (files : FileSet) : Event :=
  ⟨.info, .artifacts, "Rendered " ++ toString files.length ++ " file(s), ~"
    ++ toString files.lineTotal ++ " lines, for " ++ toString models.length ++ " model(s)."⟩

theorem result_render (writer : CodeWriter) (models : List Model) (workspace : Workspace) :
    (writer.render models).result workspace = (.ok (writer.files models),
      { workspace with events := workspace.events ++
        (rendering [] models ++ [renderingDone models (writer.files models)]) }) := by
  simp only [render, Action.result_bind, result_logRendering, Action.result_log,
    Action.result_pure, List.append_assoc, renderingDone]

/-- The files of a run are seven for each folder, those of the model that comes last there,
and the base query if it is written. -/
structure Covers (writer : CodeWriter) (models : List Model) (files : FileSet) : Prop where
  paths : files.map Prod.fst =
    (folders models).flatMap writer.folderPaths ++ writer.commonPaths models
  single : (files.map Prod.fst).Nodup
  count : files.length = 7 * (folders models).length + (writer.commonPaths models).length
  owned : ∀ folder ∈ folders models, ∃ owner, ComesLast models owner ∧ owner.folderName = folder ∧
    ∀ file ∈ writer.modelFiles owner, file ∈ files

theorem OwnedBy.mem_files {writer : CodeWriter} {files : FileSet} {model : Model}
    (owned : writer.OwnedBy files model) : ∀ file ∈ writer.modelFiles model, file ∈ files := by
  intro file member
  obtain ⟨kind, rfl⟩ := mem_modelFiles.mp member
  exact mem_of_lookup_eq_some (owned kind)

theorem covers_files (writer : CodeWriter) {models : List Model}
    (labels : ∀ model ∈ models, IsLabel model.folderName) :
    writer.Covers models (writer.files models) := by
  have paths : (writer.files models).map Prod.fst =
      (folders models).flatMap writer.folderPaths ++ writer.commonPaths models := map_fst_files labels
  refine ⟨paths, nodup_files models, ?_, ?_⟩
  · have seven : ∀ folder ∈ folders models, (writer.folderPaths folder).length = 7 :=
      fun _ _ => rfl
    rw [← List.length_map (f := Prod.fst), paths, List.length_append, List.length_flatMap,
      List.map_congr_left seven]
    simp [Nat.mul_comm]
  · intro folder used
    obtain ⟨owner, last, same⟩ := exists_comesLast (mem_folders.mp used)
    exact ⟨owner, last, same, (ownedBy_of_comesLast labels last).mem_files⟩

end CodeWriter

end PrismaNest
