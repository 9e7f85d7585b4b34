import Mathlib.Data.List.Forall2
import PrismaNest.Yaml.Composition

/-! Documents in brackets, and the graphs that their tokens spell.

A document in brackets is a tree of scalars, sequences and mappings whose keys are quoted. Its
tokens are composed into nodes, one for each part: a collection comes before its parts, and nodes
that were there before stay as they are.
-/

set_option autoImplicit false

namespace PrismaNest.Yaml

/-- A document whose collections stand in brackets. -/
inductive Tree where
  | scalar (text : String) (plain : Bool)
  | sequence (items : List Tree)
  | mapping (entries : List (String × Tree))

namespace Tree

mutual

/-- The tokens of a tree. -/
def tokens : Tree → List Token
  | .scalar text plain => [.scalar text plain]
  | .sequence [] => [.flowSequenceStart, .flowSequenceEnd]
  | .sequence (item :: items) => .flowSequenceStart :: (item.tokens ++ furtherItems items)
  | .mapping [] => [.flowMappingStart, .flowMappingEnd]
  | .mapping ((key, value) :: entries) => .flowMappingStart :: .key :: .scalar key false ::
      .value :: (value.tokens ++ furtherEntries entries)

/-- The tokens of items after another one, and of the bracket behind them. -/
def furtherItems : List Tree → List Token
  | [] => [.flowSequenceEnd]
  | item :: items => .flowEntry :: (item.tokens ++ furtherItems items)

def furtherEntries : List (String × Tree) → List Token
  | [] => [.flowMappingEnd]
  | (key, value) :: entries => .flowEntry :: .key :: .scalar key false ::
      .value :: (value.tokens ++ furtherEntries entries)

end

theorem induct {motive : Tree → Prop} (scalar : ∀ text plain, motive (.scalar text plain))
    (sequence : ∀ items, (∀ item ∈ items, motive item) → motive (.sequence items))
    (mapping : ∀ entries, (∀ entry ∈ entries, motive entry.2) → motive (.mapping entries))
    (tree : Tree) : motive tree :=
  match tree with
  | .scalar text plain => scalar text plain
  | .sequence items => sequence items fun item _ => induct scalar sequence mapping item
  | .mapping entries => mapping entries fun entry _ => induct scalar sequence mapping entry.2
termination_by sizeOf tree
decreasing_by
  all_goals
    rename_i member
    have smaller := List.sizeOf_lt_of_mem member
  · simp only [Tree.sequence.sizeOf_spec]
    omega
  · obtain ⟨key, value⟩ := entry
    simp only [Tree.mapping.sizeOf_spec, Prod.mk.sizeOf_spec] at smaller ⊢
    omega

/-- The tokens that a node in brackets can start with. -/
def starts : Token → Bool
  | .scalar .. | .flowSequenceStart | .flowMappingStart => true
  | _ => false

theorem tokens_start (tree : Tree) : ∃ token more, tree.tokens = token :: more ∧
    starts token = true := by
  rcases tree with ⟨text, plain⟩ | (_ | ⟨item, items⟩) | (_ | ⟨⟨key, value⟩, entries⟩)
  all_goals
    simp only [tokens]
    exact ⟨_, _, rfl, rfl⟩

end Tree

/-! ### Nodes for trees -/

/-- A node and those below it are the nodes of a tree. The parts of a collection come after it. -/
inductive Represents (nodes : Nodes) : NodeId → Tree → Prop where
  | scalar {id : NodeId} {text : String} {plain : Bool}
    (node : nodes[id]? = some ⟨Properties.absent.scalarTag text plain, .scalar text⟩) :
    Represents nodes id (.scalar text plain)
  | sequence {id : NodeId} {items : List NodeId} {trees : List Tree}
    (node : nodes[id]? = some ⟨.sequence, .sequence items⟩) (below : ∀ item ∈ items, id < item)
    (each : List.Forall₂ (Represents nodes) items trees) : Represents nodes id (.sequence trees)
  | mapping {id : NodeId} {entries : List (NodeId × NodeId)} {trees : List (String × Tree)}
    (node : nodes[id]? = some ⟨.mapping, .mapping entries⟩)
    (below : ∀ entry ∈ entries, id < entry.1 ∧ id < entry.2)
    (keys : List.Forall₂ (fun entry tree => nodes[entry.1]? = some ⟨.text, .scalar tree.1⟩)
      entries trees)
    (each : List.Forall₂ (fun entry tree => Represents nodes entry.2 tree.2) entries trees) :
    Represents nodes id (.mapping trees)

/-- From a node on, later nodes have kept what was there. -/
def Keeps (start : NodeId) (nodes later : Nodes) : Prop :=
  ∀ id, start ≤ id → ∀ node, nodes[id]? = some node → later[id]? = some node

theorem Keeps.of_le {start next : NodeId} {nodes later : Nodes} (keeps : Keeps start nodes later)
    (above : start ≤ next) : Keeps next nodes later :=
  fun id further => keeps id (Nat.le_trans above further)

theorem forall₂_imp_of_mem {α β : Type} {first second : α → β → Prop} {left : List α}
    {right : List β} (each : List.Forall₂ first left right)
    (imp : ∀ a ∈ left, ∀ b ∈ right, first a b → second a b) : List.Forall₂ second left right := by
  induction each with
  | nil => exact .nil
  | @cons a b left right related _ ih =>
    exact .cons (imp a List.mem_cons_self b List.mem_cons_self related)
      (ih fun a memberLeft b memberRight =>
        imp a (List.mem_cons_of_mem _ memberLeft) b (List.mem_cons_of_mem _ memberRight))

theorem Represents.kept {nodes later : Nodes} {id : NodeId} {tree : Tree}
    (represents : Represents nodes id tree) (keeps : Keeps id nodes later) :
    Represents later id tree := by
  induction tree using Tree.induct generalizing id with
  | scalar text plain =>
    cases represents with
    | scalar node => exact .scalar (keeps id (Nat.le_refl id) _ node)
  | sequence trees ih =>
    cases represents with
    | sequence node below each =>
      refine .sequence (keeps id (Nat.le_refl id) _ node) below (forall₂_imp_of_mem each ?_)
      exact fun item listed tree member part =>
        ih tree member part (keeps.of_le (Nat.le_of_lt (below item listed)))
  | mapping trees ih =>
    cases represents with
    | mapping node below keys each =>
      refine .mapping (keeps id (Nat.le_refl id) _ node) below (forall₂_imp_of_mem keys ?_)
        (forall₂_imp_of_mem each ?_)
      · exact fun entry listed _ _ key => keeps _ (Nat.le_of_lt (below entry listed).1) _ key
      · exact fun entry listed tree member part =>
          ih tree member part (keeps.of_le (Nat.le_of_lt (below entry listed).2))

/-! ### The rules of composition -/

section
variable {α : Type} {handles : TagHandles} {block indentless : Bool} {graph next : Graph}
  {inside rest stops : List Token} {token : Token}

/-- Tokens are taken off as a part of the graph that is left, and the other tokens remain. -/
def Gives {tokens : List Token} (part : Part α tokens) (value : α) (next : Graph)
    (rest : List Token) : Prop :=
  ∃ fewer, part = .ok (value, next, ⟨rest, fewer⟩)

def GivesOptional {tokens : List Token} (part : OptionalPart α tokens) (value : α) (next : Graph)
    (rest : List Token) : Prop :=
  ∃ notMore, part = .ok (value, next, ⟨rest, notMore⟩)

/-- A graph with one more node. -/
def Graph.with (graph : Graph) (tag : Tag) (content : Content) : Graph :=
  ⟨graph.nodes.push ⟨tag, content⟩, graph.anchors⟩

theorem takeNode_scalar (text : String) (plain : Bool) :
    Gives (takeNode handles block indentless graph (.scalar text plain :: rest)) graph.nodes.size
      (graph.with (Properties.absent.scalarTag text plain) (.scalar text)) rest := by
  rw [takeNode]
  · exact ⟨_, rfl⟩
  · intro _ _ same
    cases same

theorem takeNode_sequence {items : List NodeId}
    (taken : Gives (takeFlowItems handles (graph.with .sequence (.sequence [])) inside) items next
      rest) :
    Gives (takeNode handles block indentless graph (.flowSequenceStart :: inside)) graph.nodes.size
      (next.fill graph.nodes.size (.sequence items)) rest := by
  obtain ⟨fewer, taken⟩ := taken
  rw [takeNode]
  · refine ⟨Nat.lt_succ_of_lt fewer, ?_⟩
    dsimp only [takeProperties, Graph.add, Properties.absent, Properties.tag?, Option.filter,
      Option.map, Option.getD]
    rw [Graph.with] at taken
    rw [taken]
  · intro _ _ same
    cases same

theorem takeNode_mapping {entries : List (NodeId × NodeId)}
    (taken : Gives (takeFlowEntries handles (graph.with .mapping (.mapping [])) inside) entries next
      rest) :
    Gives (takeNode handles block indentless graph (.flowMappingStart :: inside)) graph.nodes.size
      (next.fill graph.nodes.size (.mapping entries)) rest := by
  obtain ⟨fewer, taken⟩ := taken
  rw [takeNode]
  · refine ⟨Nat.lt_succ_of_lt fewer, ?_⟩
    dsimp only [takeProperties, Graph.add, Properties.absent, Properties.tag?, Option.filter,
      Option.map, Option.getD]
    rw [Graph.with] at taken
    rw [taken]
  · intro _ _ same
    cases same

theorem takeOptional_node {node : NodeId} (other : nextIs stops inside = false)
    (taken : Gives (takeNode handles block indentless graph inside) node next rest) :
    GivesOptional (takeOptional handles block indentless stops graph inside) node next rest := by
  obtain ⟨fewer, taken⟩ := taken
  rw [takeOptional, if_neg (Bool.eq_false_iff.mp other), taken]
  exact ⟨Nat.le_of_lt fewer, rfl⟩

theorem takeValue_node {node : NodeId} (other : nextIs stops inside = false)
    (taken : Gives (takeNode handles block block graph inside) node next rest) :
    GivesOptional (takeValue handles block stops graph (.value :: inside)) node next rest := by
  obtain ⟨notMore, taken⟩ := takeOptional_node other taken
  rw [takeValue, taken]
  exact ⟨Nat.le_succ_of_le notMore, rfl⟩

theorem takeFlowItems_end : Gives (takeFlowItems handles graph (.flowSequenceEnd :: rest)) [] graph
    rest := by
  rw [takeFlowItems]
  exact ⟨_, rfl⟩

theorem takeMoreItems_end : Gives (takeMoreItems handles graph (.flowSequenceEnd :: rest)) [] graph
    rest := by
  rw [takeMoreItems]
  exact ⟨_, rfl⟩

theorem takeMoreItems_entry {items : List NodeId}
    (taken : Gives (takeFlowItems handles graph inside) items next rest) :
    Gives (takeMoreItems handles graph (.flowEntry :: inside)) items next rest := by
  obtain ⟨fewer, taken⟩ := taken
  rw [takeMoreItems, taken]
  exact ⟨Nat.lt_succ_of_lt fewer, rfl⟩

theorem takeFlowItems_node {node : NodeId} {items : List NodeId} {middle : Graph}
    {between : List Token} (starts : Tree.starts token = true)
    (taken : Gives (takeNode handles false false graph (token :: inside)) node middle between)
    (more : Gives (takeMoreItems handles middle between) items next rest) :
    Gives (takeFlowItems handles graph (token :: inside)) (node :: items) next rest := by
  obtain ⟨fewer, taken⟩ := taken
  obtain ⟨fewerStill, more⟩ := more
  rw [takeFlowItems, taken]
  · dsimp only
    rw [more]
    exact ⟨Nat.lt_trans fewerStill fewer, rfl⟩
  · rintro _ ⟨rfl, -⟩
    cases starts
  · rintro _ ⟨rfl, -⟩
    cases starts

theorem takeFlowEntries_end : Gives (takeFlowEntries handles graph (.flowMappingEnd :: rest)) [] graph
    rest := by
  rw [takeFlowEntries]
  exact ⟨_, rfl⟩

theorem takeMoreEntries_end : Gives (takeMoreEntries handles graph (.flowMappingEnd :: rest)) [] graph
    rest := by
  rw [takeMoreEntries]
  exact ⟨_, rfl⟩

theorem takeMoreEntries_entry {entries : List (NodeId × NodeId)}
    (taken : Gives (takeFlowEntries handles graph inside) entries next rest) :
    Gives (takeMoreEntries handles graph (.flowEntry :: inside)) entries next rest := by
  obtain ⟨fewer, taken⟩ := taken
  rw [takeMoreEntries, taken]
  exact ⟨Nat.lt_succ_of_lt fewer, rfl⟩

theorem nextIs_of_starts {token : Token} (starts : Tree.starts token = true)
    (apart : ∀ stop ∈ stops, Tree.starts stop = false) : nextIs stops (token :: inside) = false := by
  rw [nextIs, List.head?_cons, Option.any_some, List.contains_eq_any_beq, List.any_eq_false]
  intro stop member same
  rw [beq_iff_eq] at same
  rw [same, apart stop member] at starts
  cases starts

theorem takeFlowEntries_node {key : String} {node : NodeId} {entries : List (NodeId × NodeId)}
    {middle : Graph} {between : List Token} (starts : Tree.starts token = true)
    (taken : Gives (takeNode handles false false (graph.with .text (.scalar key)) (token :: inside))
      node middle between)
    (more : Gives (takeMoreEntries handles middle between) entries next rest) :
    Gives (takeFlowEntries handles graph (.key :: .scalar key false :: .value :: token :: inside))
      ((graph.nodes.size, node) :: entries) next rest := by
  have keyStops : nextIs [.value, .flowEntry, .flowMappingEnd]
      (.scalar key false :: .value :: token :: inside) = false :=
    nextIs_of_starts rfl (by decide)
  have valueStops : nextIs [.flowEntry, .flowMappingEnd] (token :: inside) = false :=
    nextIs_of_starts starts (by decide)
  have keyNode : Gives (takeNode handles false false graph
      (.scalar key false :: .value :: token :: inside)) graph.nodes.size
      (graph.with .text (.scalar key)) (.value :: token :: inside) :=
    takeNode_scalar key false
  obtain ⟨fewerKey, keyTaken⟩ := takeOptional_node keyStops keyNode
  obtain ⟨fewerValue, valueTaken⟩ := takeValue_node valueStops taken
  obtain ⟨fewer, more⟩ := more
  have shorter : rest.length <
      (Token.key :: .scalar key false :: .value :: token :: inside).length := by
    simp only [List.length_cons] at fewerValue ⊢
    omega
  rw [takeFlowEntries, keyTaken]
  dsimp only
  rw [valueTaken]
  dsimp only
  rw [more]
  exact ⟨shorter, rfl⟩

end

/-! ### The graph of a tree -/

/-- Nodes have been added behind those that were there. -/
structure Graph.Grows (graph next : Graph) : Prop where
  larger : graph.nodes.size ≤ next.nodes.size
  same : ∀ id < graph.nodes.size, next.nodes[id]? = graph.nodes[id]?

namespace Graph

variable {graph next last : Graph} {tag : Tag} {content : Content}

theorem Grows.refl (graph : Graph) : graph.Grows graph :=
  ⟨Nat.le_refl _, fun _ _ => rfl⟩

theorem Grows.trans (first : graph.Grows next) (second : next.Grows last) : graph.Grows last where
  larger := Nat.le_trans first.larger second.larger
  same := fun id inside =>
    (second.same id (Nat.lt_of_lt_of_le inside first.larger)).trans (first.same id inside)

theorem Grows.keeps (grows : graph.Grows next) (start : NodeId) :
    Keeps start graph.nodes next.nodes := by
  intro id _ node found
  rw [grows.same id (Array.getElem?_eq_some_iff.mp found).1]
  exact found

theorem size_with (graph : Graph) (tag : Tag) (content : Content) :
    (graph.with tag content).nodes.size = graph.nodes.size + 1 :=
  Array.size_push _

theorem node_with (graph : Graph) (tag : Tag) (content : Content) :
    (graph.with tag content).nodes[graph.nodes.size]? = some ⟨tag, content⟩ :=
  Array.getElem?_push_size

theorem grows_with (graph : Graph) (tag : Tag) (content : Content) :
    graph.Grows (graph.with tag content) where
  larger := by
    rw [size_with]
    exact Nat.le_succ _
  same := by
    intro id inside
    rw [Graph.with, Array.getElem?_push_lt inside, Array.getElem?_eq_getElem inside]

theorem size_fill (graph : Graph) (id : NodeId) (content : Content) :
    (graph.fill id content).nodes.size = graph.nodes.size := by
  rw [fill, Nodes.setContent]
  split
  · exact Array.size_setIfInBounds
  · rfl

theorem getElem?_fill_of_ne {id other : NodeId} (apart : other ≠ id) (content : Content) :
    (graph.fill id content).nodes[other]? = graph.nodes[other]? := by
  rw [fill, Nodes.setContent]
  split
  · exact Array.getElem?_setIfInBounds_ne (Ne.symm apart)
  · rfl

theorem getElem?_fill_self {id : NodeId} (there : graph.nodes[id]? = some ⟨tag, content⟩)
    (filling : Content) : (graph.fill id filling).nodes[id]? = some ⟨tag, filling⟩ := by
  have inside := (Array.getElem?_eq_some_iff.mp there).1
  simp only [fill, Nodes.setContent, there, Array.getElem?_setIfInBounds_self_of_lt inside]

/-- A collection that was filled in after its parts had been added behind it. -/
structure Filled (graph filled next : Graph) (node : Node) : Prop where
  grows : graph.Grows filled
  larger : graph.nodes.size < filled.nodes.size
  node : filled.nodes[graph.nodes.size]? = some node
  parts : Keeps (graph.nodes.size + 1) next.nodes filled.nodes

theorem Grows.fill (grows : (graph.with tag content).Grows next) (filling : Content) :
    graph.Filled (next.fill graph.nodes.size filling) next ⟨tag, filling⟩ := by
  have inside : graph.nodes.size < (graph.with tag content).nodes.size := by
    rw [size_with]
    exact Nat.lt_succ_self _
  have there : next.nodes[graph.nodes.size]? = some ⟨tag, content⟩ :=
    (grows.same _ inside).trans (node_with graph tag content)
  have earlier := (graph.grows_with tag content).trans grows
  refine ⟨⟨?_, ?_⟩, ?_, getElem?_fill_self there filling, ?_⟩
  · rw [size_fill]
    exact earlier.larger
  · intro id before
    rw [getElem?_fill_of_ne (Nat.ne_of_lt before)]
    exact earlier.same id before
  · rw [size_fill]
    exact Nat.lt_of_lt_of_le inside grows.larger
  · intro id above node found
    rw [getElem?_fill_of_ne (Nat.ne_of_gt above)]
    exact found

end Graph

section
variable {handles : TagHandles} {graph : Graph}

/-- A tree is taken off the tokens in front of others, as new nodes for its parts. -/
def IsTaken (tree : Tree) : Prop :=
  ∀ (handles : TagHandles) (block indentless : Bool) (graph : Graph) (rest : List Token), ∃ next,
    Gives (takeNode handles block indentless graph (tree.tokens ++ rest)) graph.nodes.size next rest ∧
      graph.Grows next ∧ graph.nodes.size < next.nodes.size ∧
      Represents next.nodes graph.nodes.size tree

/-- Items behind the nodes of a graph stand for trees. -/
structure HasItems (graph next : Graph) (items : List NodeId) (trees : List Tree) : Prop where
  grows : graph.Grows next
  behind : ∀ item ∈ items, graph.nodes.size ≤ item
  each : List.Forall₂ (Represents next.nodes) items trees

theorem takeFlowItems_cons {tree : Tree} {trees : List Tree} {rest : List Token}
    (isTaken : IsTaken tree) (more : ∀ graph, ∃ items next,
      Gives (takeMoreItems handles graph (Tree.furtherItems trees ++ rest)) items next rest ∧
        HasItems graph next items trees)
    (graph : Graph) : ∃ items next, Gives (takeFlowItems handles graph
        (tree.tokens ++ (Tree.furtherItems trees ++ rest))) items next rest ∧
      HasItems graph next items (tree :: trees) := by
  obtain ⟨middle, taken, grows, -, represents⟩ :=
    isTaken handles false false graph (Tree.furtherItems trees ++ rest)
  obtain ⟨items, next, others, has⟩ := more middle
  obtain ⟨token, tokens, spelled, starts⟩ := tree.tokens_start
  rw [spelled, List.cons_append] at taken ⊢
  refine ⟨graph.nodes.size :: items, next, takeFlowItems_node starts taken others, ?_, ?_, ?_⟩
  · exact grows.trans has.grows
  · refine List.forall_mem_cons.mpr ⟨Nat.le_refl _, fun item member => ?_⟩
    exact Nat.le_trans grows.larger (has.behind item member)
  · exact .cons (represents.kept (has.grows.keeps _)) has.each

theorem takeMoreItems_trees {trees : List Tree} (each : ∀ tree ∈ trees, IsTaken tree)
    (graph : Graph) (rest : List Token) : ∃ items next,
      Gives (takeMoreItems handles graph (Tree.furtherItems trees ++ rest)) items next rest ∧
        HasItems graph next items trees := by
  induction trees generalizing graph with
  | nil => exact ⟨[], graph, takeMoreItems_end, .refl graph, nofun, .nil⟩
  | cons tree trees ih =>
    obtain ⟨isFirst, later⟩ := List.forall_mem_cons.mp each
    obtain ⟨items, next, taken, has⟩ := takeFlowItems_cons isFirst (ih later) graph
    rw [Tree.furtherItems, List.cons_append, List.append_assoc]
    exact ⟨items, next, takeMoreItems_entry taken, has⟩

theorem isTaken_sequence {trees : List Tree} (each : ∀ tree ∈ trees, IsTaken tree) :
    IsTaken (.sequence trees) := by
  intro handles block indentless graph rest
  have inside : ∃ inside items next, (Tree.sequence trees).tokens = .flowSequenceStart :: inside ∧
      Gives (takeFlowItems handles (graph.with .sequence (.sequence [])) (inside ++ rest)) items next
        rest ∧ HasItems (graph.with .sequence (.sequence [])) next items trees := by
    cases trees with
    | nil => exact ⟨_, [], _, rfl, takeFlowItems_end, .refl _, nofun, .nil⟩
    | cons tree trees =>
      obtain ⟨isFirst, later⟩ := List.forall_mem_cons.mp each
      obtain ⟨items, next, taken, has⟩ := takeFlowItems_cons isFirst
        (takeMoreItems_trees later · rest) (graph.with .sequence (.sequence []))
      exact ⟨_, items, next, rfl, by rwa [List.append_assoc], has⟩
  obtain ⟨inside, items, next, spelled, taken, has⟩ := inside
  have filled := has.grows.fill (.sequence items)
  have behind := has.behind
  rw [Graph.size_with] at behind
  refine ⟨_, by rw [spelled]; exact takeNode_sequence taken, filled.grows, filled.larger, ?_⟩
  refine .sequence filled.node behind (forall₂_imp_of_mem has.each ?_)
  exact fun item member tree _ represents => represents.kept (filled.parts.of_le (behind item member))

/-- Entries behind the nodes of a graph stand for the entries of a tree. -/
structure HasEntries (graph next : Graph) (entries : List (NodeId × NodeId))
    (trees : List (String × Tree)) : Prop where
  grows : graph.Grows next
  behind : ∀ entry ∈ entries, graph.nodes.size ≤ entry.1 ∧ graph.nodes.size ≤ entry.2
  keys : List.Forall₂ (fun entry tree => next.nodes[entry.1]? = some ⟨.text, .scalar tree.1⟩)
    entries trees
  each : List.Forall₂ (fun entry tree => Represents next.nodes entry.2 tree.2) entries trees

theorem takeFlowEntries_cons {key : String} {tree : Tree} {trees : List (String × Tree)}
    {rest : List Token} (isTaken : IsTaken tree) (more : ∀ graph, ∃ entries next,
      Gives (takeMoreEntries handles graph (Tree.furtherEntries trees ++ rest)) entries next rest ∧
        HasEntries graph next entries trees)
    (graph : Graph) : ∃ entries next, Gives (takeFlowEntries handles graph
        (.key :: .scalar key false :: .value :: (tree.tokens ++ (Tree.furtherEntries trees ++ rest))))
          entries next rest ∧
      HasEntries graph next entries ((key, tree) :: trees) := by
  obtain ⟨middle, taken, grows, -, represents⟩ := isTaken handles false false
    (graph.with .text (.scalar key)) (Tree.furtherEntries trees ++ rest)
  obtain ⟨entries, next, others, has⟩ := more middle
  obtain ⟨token, tokens, spelled, starts⟩ := tree.tokens_start
  rw [spelled, List.cons_append] at taken ⊢
  have earlier := (graph.grows_with .text (.scalar key)).trans grows
  refine ⟨_ :: entries, next, takeFlowEntries_node starts taken others, ?_, ?_, ?_, ?_⟩
  · exact earlier.trans has.grows
  · refine List.forall_mem_cons.mpr ⟨⟨Nat.le_refl _, (graph.grows_with _ _).larger⟩, ?_⟩
    exact fun entry member => ⟨Nat.le_trans earlier.larger (has.behind entry member).1,
      Nat.le_trans earlier.larger (has.behind entry member).2⟩
  · refine .cons ?_ has.keys
    exact (grows.trans has.grows).keeps 0 _ (Nat.zero_le _) _ (graph.node_with .text (.scalar key))
  · exact .cons (represents.kept (has.grows.keeps _)) has.each

theorem takeMoreEntries_trees {trees : List (String × Tree)}
    (each : ∀ entry ∈ trees, IsTaken entry.2) (graph : Graph) (rest : List Token) : ∃ entries next,
      Gives (takeMoreEntries handles graph (Tree.furtherEntries trees ++ rest)) entries next rest ∧
        HasEntries graph next entries trees := by
  induction trees generalizing graph with
  | nil => exact ⟨[], graph, takeMoreEntries_end, .refl graph, nofun, .nil, .nil⟩
  | cons entry trees ih =>
    obtain ⟨key, tree⟩ := entry
    obtain ⟨isFirst, later⟩ := List.forall_mem_cons.mp each
    obtain ⟨entries, next, taken, has⟩ := takeFlowEntries_cons isFirst (ih later) graph
    refine ⟨entries, next, ?_, has⟩
    rw [Tree.furtherEntries, List.cons_append, List.cons_append, List.cons_append, List.cons_append,
      List.append_assoc]
    exact takeMoreEntries_entry taken

theorem isTaken_mapping {trees : List (String × Tree)} (each : ∀ entry ∈ trees, IsTaken entry.2) :
    IsTaken (.mapping trees) := by
  intro handles block indentless graph rest
  have inside : ∃ inside entries next, (Tree.mapping trees).tokens = .flowMappingStart :: inside ∧
      Gives (takeFlowEntries handles (graph.with .mapping (.mapping [])) (inside ++ rest)) entries
        next rest ∧ HasEntries (graph.with .mapping (.mapping [])) next entries trees := by
    cases trees with
    | nil => exact ⟨_, [], _, rfl, takeFlowEntries_end, .refl _, nofun, .nil, .nil⟩
    | cons entry trees =>
      obtain ⟨key, tree⟩ := entry
      obtain ⟨isFirst, later⟩ := List.forall_mem_cons.mp each
      obtain ⟨entries, next, taken, has⟩ := takeFlowEntries_cons isFirst
        (takeMoreEntries_trees later · rest) (graph.with .mapping (.mapping []))
      refine ⟨_, entries, next, rfl, ?_, has⟩
      rw [List.cons_append, List.cons_append, List.cons_append, List.append_assoc]
      exact taken
  obtain ⟨inside, entries, next, spelled, taken, has⟩ := inside
  have filled := has.grows.fill (.mapping entries)
  have behind := has.behind
  rw [Graph.size_with] at behind
  refine ⟨_, by rw [spelled]; exact takeNode_mapping taken, filled.grows, filled.larger, ?_⟩
  refine .mapping filled.node behind (forall₂_imp_of_mem has.keys ?_)
    (forall₂_imp_of_mem has.each ?_)
  · exact fun entry member _ _ key => filled.parts entry.1 (behind entry member).1 _ key
  · exact fun entry member tree _ represents =>
      represents.kept (filled.parts.of_le (behind entry member).2)

theorem isTaken (tree : Tree) : IsTaken tree := by
  induction tree using Tree.induct with
  | scalar text plain =>
    intro handles block indentless graph rest
    refine ⟨_, takeNode_scalar text plain, graph.grows_with _ _, ?_, .scalar (graph.node_with _ _)⟩
    rw [Graph.size_with]
    exact Nat.lt_succ_self _
  | sequence trees ih => exact isTaken_sequence ih
  | mapping trees ih => exact isTaken_mapping ih

end

-- Nothing but the tree may stand in the text.
theorem ofTokens_tree (tree : Tree) : ∃ graph, Graph.ofTokens (tree.tokens ++ [.streamEnd]) =
    .ok (some (0, graph)) ∧ Represents graph.nodes 0 tree := by
  obtain ⟨graph, ⟨fewer, taken⟩, -, -, represents⟩ :=
    isTaken tree standardHandles true false .empty [.streamEnd]
  refine ⟨graph, ?_, represents⟩
  obtain ⟨token, tokens, spelled, starts⟩ := tree.tokens_start
  have notEnd : nextIs [.streamEnd] (tree.tokens ++ [.streamEnd]) = false := by
    rw [spelled]
    exact nextIs_of_starts starts (by decide)
  have notMarked : nextIs [.documentStart] (tree.tokens ++ [.streamEnd]) = false := by
    rw [spelled]
    exact nextIs_of_starts starts (by decide)
  have noDirective : (tree.tokens ++ [Token.streamEnd]).head?.any isDirective = false := by
    rw [spelled]
    cases token <;> first | rfl | cases starts
  rw [Graph.ofTokens, notEnd, notMarked, noDirective, taken]
  rfl

end PrismaNest.Yaml
