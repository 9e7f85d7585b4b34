import PrismaNest.Proofs.Yaml.Trees
import PrismaNest.Proofs.Yaml.Visits

/-! Documents in brackets stand for the values that they show.

The value of a scalar is read from its text, a sequence is the list of the values of its items, and
a mapping has the values of its entries under their keys. The nodes of a tree stand for the value of
the tree, as no node encloses itself. A document without a value has a scalar that cannot be read.
-/

set_option autoImplicit false

namespace PrismaNest.Yaml

variable {nodes : Nodes} {bad : Fault → Prop} {id : NodeId} {visit : Visit}

/-- A tree stands for a value. A key that comes again keeps its place and takes the later value. -/
inductive Tree.Means : Tree → Value → Prop where
  | scalar {text : String} {plain : Bool} {value : Value}
    (read : scalarValue (Properties.absent.scalarTag text plain) text = .ok value) :
    Means (.scalar text plain) value
  | sequence {items : List Tree} {values : List Value} (each : List.Forall₂ Means items values) :
    Means (.sequence items) (.list values)
  | mapping {entries : List (String × Tree)} {values : List Value}
    (each : List.Forall₂ (fun entry value => Means entry.2 value) entries values) :
    Means (.mapping entries)
      (.mapping (Value.putKeys [] ((entries.map fun entry => .text entry.1).zip values)))

/-- A tree is part of another one, or the whole. -/
inductive Tree.Within (part : Tree) : Tree → Prop where
  | whole : Within part part
  | item {item : Tree} {items : List Tree} (member : item ∈ items) (within : Within part item) :
    Within part (.sequence items)
  | value {entry : String × Tree} {entries : List (String × Tree)} (member : entry ∈ entries)
    (within : Within part entry.2) : Within part (.mapping entries)

/-- A scalar of a tree cannot be read. -/
def Tree.Fails (tree : Tree) (fault : Fault) : Prop :=
  ∃ text plain, Tree.Within (.scalar text plain) tree ∧
    scalarValue (Properties.absent.scalarTag text plain) text = .error fault

variable {tree : Tree}

theorem forall₂_exists_mem {α β : Type} {related : α → β → Prop} {left : List α} {right : List β}
    (each : List.Forall₂ related left right) {a : α} (member : a ∈ left) :
    ∃ b ∈ right, related a b := by
  induction each with
  | nil => cases member
  | @cons first second left right holds _ ih =>
    rcases List.mem_cons.mp member with rfl | member
    · exact ⟨second, List.mem_cons_self, holds⟩
    · obtain ⟨b, listed, related⟩ := ih member
      exact ⟨b, List.mem_cons_of_mem _ listed, related⟩

theorem Represents.lt_size (represents : Represents nodes id tree) : id < nodes.size := by
  cases represents with
  | scalar node | sequence node | mapping node => exact Visit.lt_size_of_node node

theorem Represents.visitable (represents : Represents nodes id tree)
    (scalars : ∀ text plain, Tree.Within (.scalar text plain) tree →
      (Properties.absent.scalarTag text plain).isOfScalars = true ∧ ∀ fault,
        scalarValue (Properties.absent.scalarTag text plain) text = .error fault → bad fault) :
    Visitable nodes bad id := by
  induction tree using Tree.induct generalizing id with
  | scalar text plain =>
    obtain ⟨fits, fails⟩ := scalars text plain .whole
    cases represents with
    | scalar node => exact .scalar node fits fails
  | sequence trees ih =>
    cases represents with
    | sequence node below each =>
      refine .sequence node fun item listed => ?_
      obtain ⟨part, member, represents⟩ := forall₂_exists_mem each listed
      exact ih part member represents fun text plain within => scalars text plain (.item member within)
  | mapping trees ih =>
    cases represents with
    | mapping node below keys each =>
      refine .mapping node (fun entry listed => ?_) fun entry listed => ?_
      · obtain ⟨part, -, key⟩ := forall₂_exists_mem keys listed
        exact ⟨part.1, key⟩
      · obtain ⟨part, member, represents⟩ := forall₂_exists_mem each listed
        exact ih part member represents
          fun text plain within => scalars text plain (.value member within)

namespace Visit

variable {around : List NodeId} {fuel : Nat}

-- No node encloses itself, as the parts of a collection come after it.
theorem valueWithin_succ (outside : ∀ outer ∈ around, outer < id) :
    visit.valueWithin (fuel + 1) around id =
      match visit.meaning? id with
      | none => .null
      | some (.plain value) => value
      | some (.list items) => .list (items.map (visit.valueWithin fuel (id :: around)))
      | some (.mapping entries) => .mapping (entries.map fun entry =>
          (entry.1, visit.valueWithin fuel (id :: around) entry.2)) := by
  have apart : id ∉ around := fun member => Nat.lt_irrefl id (outside id member)
  rw [valueWithin, List.idxOf?_eq_none_iff.mpr apart]
  rcases visit.meaning? id with _ | (_ | _ | _) <;> rfl

-- The fuel and the number of a node stay beyond the number of all nodes.
theorem exists_fuel {size fuel id : Nat} (inside : id < size) (enough : size < fuel + id) :
    ∃ less, fuel = less + 1 ∧ ∀ part, id < part → size < less + part :=
  ⟨fuel - 1, by omega, fun part behind => by omega⟩

theorem forall_cons_lt {outer item : NodeId} (outside : ∀ other ∈ around, other < outer)
    (behind : outer < item) : ∀ other ∈ outer :: around, other < item :=
  List.forall_mem_cons.mpr
    ⟨behind, fun other member => Nat.lt_trans (outside other member) behind⟩

theorem map_gather {entries : List (NodeId × NodeId)} {trees : List (String × Tree)}
    (keys : List.Forall₂ (fun entry tree => nodes[entry.1]? = some ⟨.text, .scalar tree.1⟩)
      entries trees) (value : NodeId → Value) :
    (gather nodes entries).map (fun entry => (entry.1, value entry.2)) =
      Value.putKeys [] ((trees.map fun tree => .text tree.1).zip
        (entries.map fun entry => value entry.2)) := by
  have named : entries.map (fun entry => keyOf nodes entry.1) =
      trees.map fun tree => .text tree.1 := by
    induction keys with
    | nil => rfl
    | cons key _ ih => rw [List.map_cons, List.map_cons, ih, keyOf, Nodes.content?_of_node key]
  rw [← named, List.zip_map', gather]
  refine (Value.map_putKeys value [] _).trans ?_
  rw [List.map_map]
  rfl

theorem means_valueWithin (complete : visit.Complete nodes) (represents : Represents nodes id tree)
    (met : visit.Met id) (outside : ∀ outer ∈ around, outer < id)
    (enough : nodes.size < fuel + id) : tree.Means (visit.valueWithin fuel around id) := by
  induction tree using Tree.induct generalizing id around fuel with
  | scalar text plain =>
    obtain ⟨less, rfl, -⟩ := exists_fuel represents.lt_size enough
    cases represents with
    | scalar node =>
      obtain ⟨value, read, meaning⟩ := (complete id met).scalar_inv node
      rw [valueWithin_succ outside, meaning]
      exact .scalar read
  | sequence trees ih =>
    obtain ⟨less, rfl, fewer⟩ := exists_fuel represents.lt_size enough
    cases represents with
    | sequence node below each =>
      obtain ⟨meaning, parts⟩ := (complete id met).sequence_inv node
      rw [valueWithin_succ outside, meaning]
      refine .sequence (List.forall₂_map_right_iff.mpr (List.Forall₂.flip ?_))
      refine forall₂_imp_of_mem each fun item listed tree member represents => ?_
      have behind := below item listed
      exact ih tree member represents (parts item listed) (forall_cons_lt outside behind)
        (fewer item behind)
  | mapping trees ih =>
    obtain ⟨less, rfl, fewer⟩ := exists_fuel represents.lt_size enough
    cases represents with
    | @mapping _ entries _ node below keys each =>
      obtain ⟨meaning, parts⟩ := (complete id met).mapping_inv node
      rw [valueWithin_succ outside, meaning]
      dsimp only
      rw [map_gather keys]
      refine .mapping (List.forall₂_map_right_iff.mpr (List.Forall₂.flip ?_))
      refine forall₂_imp_of_mem each fun entry listed tree member represents => ?_
      have behind := (below entry listed).2
      exact ih tree member represents (parts entry listed) (forall_cons_lt outside behind)
        (fewer entry.2 behind)

end Visit

/-- The value of a tree's graph is the value of the tree. If there is none, then because a scalar of
the tree cannot be read. -/
theorem ends_valueOf {graph : Graph} (represents : Represents graph.nodes 0 tree)
    (fits : ∀ text plain, Tree.Within (.scalar text plain) tree →
      (Properties.absent.scalarTag text plain).isOfScalars = true) :
    Ends tree.Means tree.Fails (graph.valueOf 0) := by
  have visitable : Visitable graph.nodes tree.Fails 0 :=
    represents.visitable fun text plain within =>
      ⟨fits text plain within, fun fault failed => ⟨text, plain, within, failed⟩⟩
  have visited : Ends (fun last => last.Complete graph.nodes ∧ last.Met 0) tree.Fails
      (((Visit.start graph.nodes).meet 0).bind (Visit.finish graph.nodes.size 0)) := by
    refine (Visit.ends_meet (Visit.sound_start graph.nodes tree.Fails) visitable).bind
      fun visit ⟨sound, _, met⟩ => ?_
    refine (Visit.ends_finish sound (Nat.le_add_left _ _)).mono fun last ⟨complete, metStill⟩ => ?_
    exact ⟨complete, metStill 0 met⟩
  exact visited.bind fun last ⟨complete, met⟩ =>
    Visit.means_valueWithin complete represents met nofun (Nat.lt_succ_self _)

/-- A text with the tokens of a tree, and without characters that are refused or changed before, is
read as the value of the tree. -/
theorem ends_read {text : String} (allowed : text.toList.all isAllowed = true)
    (kept : (Text.normalizeLineEnds text.toList).map (fun c => if c = '\u0085' then '\n' else c) =
      text.toList)
    (lexed : tokens text.toList = tree.tokens ++ [.streamEnd])
    (fits : ∀ text plain, Tree.Within (.scalar text plain) tree →
      (Properties.absent.scalarTag text plain).isOfScalars = true) :
    Ends tree.Means tree.Fails (read text) := by
  obtain ⟨graph, taken, represents⟩ := ofTokens_tree tree
  have same : read text = graph.valueOf 0 := by
    rw [read]
    simp only [allowed, Bool.not_true, Bool.false_eq_true, ↓reduceIte, kept, lexed, taken]
    rfl
  rw [same]
  exact ends_valueOf represents fits

end PrismaNest.Yaml
