import Mathlib.Data.List.Nodup
import Mathlib.Data.List.Perm.Subperm
import Mathlib.Data.List.TakeWhile
import PrismaNest.Yaml.Document

/-! Visits of a graph end with a meaning for each node that was met.

A collection has its turn after all that were met before it. Until then it stands for nothing yet,
and from then on for its parts, which have been met by then. No collection has a second turn, so
that there are no more turns than nodes. The first scalar that cannot be read ends the visit.
-/

set_option autoImplicit false

namespace PrismaNest

/-! ### Entries that are put by their keys -/

namespace Value

variable {β γ : Type}

/-- Puts entries one after the other. A key that comes again keeps its place and takes the later
value. -/
def putKeys (entries added : List (Value × β)) : List (Value × β) :=
  added.foldl (fun current entry => putKey entry.1 entry.2 current) entries

theorem putKeys_cons (entries : List (Value × β)) (entry : Value × β) (added : List (Value × β)) :
    putKeys entries (entry :: added) = putKeys (putKey entry.1 entry.2 entries) added :=
  rfl

-- What the entries hold can be changed before or after they are put.
theorem map_putKey (change : β → γ) (key : Value) (value : β) (entries : List (Value × β)) :
    (putKey key value entries).map (Prod.map id change) =
      putKey key (change value) (entries.map (Prod.map id change)) := by
  induction entries with
  | nil => rfl
  | cons entry entries ih =>
    obtain ⟨existing, old⟩ := entry
    simp only [putKey, List.map_cons, Prod.map, id]
    split <;> simp only [List.map_cons, ih, Prod.map, id]

theorem map_putKeys (change : β → γ) (entries added : List (Value × β)) :
    (putKeys entries added).map (Prod.map id change) =
      putKeys (entries.map (Prod.map id change)) (added.map (Prod.map id change)) := by
  induction added generalizing entries with
  | nil => rfl
  | cons entry added ih =>
    rw [putKeys_cons, ih, map_putKey]
    rfl

end Value

namespace Yaml

/-! ### Readings that may fail -/

section
variable {α β : Type} {good : α → Prop} {after : β → Prop} {bad : Fault → Prop} {read : Read α}

/-- A reading gives something good, or fails in an expected way. -/
def Ends (good : α → Prop) (bad : Fault → Prop) : Read α → Prop
  | .ok value => good value
  | .error fault => bad fault

theorem Ends.bind {next : α → Read β} (ends : Ends good bad read)
    (goesOn : ∀ value, good value → Ends after bad (next value)) :
    Ends after bad (read.bind next) := by
  cases read with
  | ok value => exact goesOn value ends
  | error fault => exact ends

theorem Ends.mono {better : α → Prop} (ends : Ends good bad read)
    (weaker : ∀ value, good value → better value) : Ends better bad read := by
  cases read with
  | ok value => exact weaker value ends
  | error fault => exact ends

theorem Ends.map {change : α → β} (ends : Ends good bad read)
    (changed : ∀ value, good value → after (change value)) : Ends after bad (read.map change) := by
  cases read with
  | ok value => exact changed value ends
  | error fault => exact ends

end

/-! ### Nodes that can be visited -/

/-- The tags that a scalar can be read by. -/
def Tag.isOfScalars : Tag → Bool
  | .null | .bool | .int | .float | .timestamp | .text => true
  | _ => false

def IsKey (nodes : Nodes) (id : NodeId) : Prop :=
  ∃ text, nodes[id]? = some ⟨.text, .scalar text⟩

def IsCollection (nodes : Nodes) (id : NodeId) : Prop :=
  ∃ tag content, nodes[id]? = some ⟨tag, content⟩ ∧ ∀ text, content ≠ .scalar text

/-- A node below which everything has a tag that fits. The scalars may fail in an expected way. -/
inductive Visitable (nodes : Nodes) (bad : Fault → Prop) : NodeId → Prop where
  | scalar {id : NodeId} {tag : Tag} {text : String}
    (node : nodes[id]? = some ⟨tag, .scalar text⟩) (fits : tag.isOfScalars = true)
    (fails : ∀ fault, scalarValue tag text = .error fault → bad fault) : Visitable nodes bad id
  | sequence {id : NodeId} {items : List NodeId}
    (node : nodes[id]? = some ⟨.sequence, .sequence items⟩)
    (parts : ∀ item ∈ items, Visitable nodes bad item) : Visitable nodes bad id
  | mapping {id : NodeId} {entries : List (NodeId × NodeId)}
    (node : nodes[id]? = some ⟨.mapping, .mapping entries⟩)
    (keys : ∀ entry ∈ entries, IsKey nodes entry.1)
    (parts : ∀ entry ∈ entries, Visitable nodes bad entry.2) : Visitable nodes bad id

variable {nodes : Nodes} {bad : Fault → Prop} {id other : NodeId} {tag : Tag} {content : Content}
  {turn : Nat} {visit later last : Visit} {meaning : Meaning}

theorem Nodes.tag?_of_node (node : nodes[id]? = some ⟨tag, content⟩) : nodes.tag? id = some tag := by
  rw [tag?, node, Option.map_some]

theorem Nodes.content?_of_node (node : nodes[id]? = some ⟨tag, content⟩) :
    nodes.content? id = some content := by
  rw [content?, node, Option.map_some]

theorem IsKey.visitable (key : IsKey nodes id) : Visitable nodes bad id := by
  obtain ⟨text, node⟩ := key
  exact .scalar node rfl nofun

/-- What a key stands for. -/
def keyOf (nodes : Nodes) (id : NodeId) : Value :=
  match nodes.content? id with
  | some (.scalar text) => .text text
  | _ => .null

/-- The entries of a mapping by what their keys stand for. -/
def gather (nodes : Nodes) (entries : List (NodeId × NodeId)) : List (Value × NodeId) :=
  Value.putKeys [] (entries.map fun entry => (keyOf nodes entry.1, entry.2))

/-! ### States of a visit -/

namespace Visit

abbrev Met (visit : Visit) (id : NodeId) : Prop :=
  (visit.meaning? id).isSome = true

/-- A node stands for what it says, and its parts have been met. -/
inductive Settled (nodes : Nodes) (visit : Visit) (id : NodeId) : Prop where
  | scalar {tag : Tag} {text : String} {value : Value}
    (node : nodes[id]? = some ⟨tag, .scalar text⟩) (read : scalarValue tag text = .ok value)
    (meaning : visit.meaning? id = some (.plain value))
  | sequence {items : List NodeId} (node : nodes[id]? = some ⟨.sequence, .sequence items⟩)
    (meaning : visit.meaning? id = some (.list items)) (parts : ∀ item ∈ items, visit.Met item)
  | mapping {entries : List (NodeId × NodeId)}
    (node : nodes[id]? = some ⟨.mapping, .mapping entries⟩)
    (meaning : visit.meaning? id = some (.mapping (gather nodes entries)))
    (parts : ∀ entry ∈ entries, visit.Met entry.2)

/-- The turn of a node is still to come. -/
def Waits (visit : Visit) (turn : Nat) (id : NodeId) : Prop :=
  ∃ place, turn ≤ place ∧ visit.turns[place]? = some id

/-- What holds between two turns. -/
structure Sound (nodes : Nodes) (bad : Fault → Prop) (turn : Nat) (visit : Visit) : Prop where
  graph : visit.nodes = nodes
  size : visit.meanings.size = nodes.size
  inTime : turn ≤ visit.turns.size
  single : visit.turns.toList.Nodup
  taken : ∀ id ∈ visit.turns.toList, visit.Met id ∧ Visitable nodes bad id ∧ IsCollection nodes id
  met : ∀ id, visit.Met id → visit.Settled nodes id ∨ visit.Waits turn id

/-- Meanings that are known stay, and further turns come later. -/
structure Grows (visit later : Visit) : Prop where
  meanings : ∀ id meaning, visit.meaning? id = some meaning → later.meaning? id = some meaning
  turns : ∀ (place : Nat) id, visit.turns[place]? = some id → later.turns[place]? = some id

theorem Grows.refl (visit : Visit) : visit.Grows visit :=
  ⟨fun _ _ => id, fun _ _ => id⟩

theorem Grows.trans (first : visit.Grows later) (second : later.Grows last) : visit.Grows last :=
  ⟨fun id meaning known => second.meanings id meaning (first.meanings id meaning known),
    fun place id there => second.turns place id (first.turns place id there)⟩

theorem Grows.met (grows : visit.Grows later) (met : visit.Met id) : later.Met id := by
  obtain ⟨meaning, known⟩ := Option.isSome_iff_exists.mp met
  exact Option.isSome_iff_exists.mpr ⟨meaning, grows.meanings id meaning known⟩

theorem Settled.scalar_inv {text : String} (settled : visit.Settled nodes id)
    (node : nodes[id]? = some ⟨tag, .scalar text⟩) :
    ∃ value, scalarValue tag text = .ok value ∧ visit.meaning? id = some (.plain value) := by
  cases settled with
  | scalar other read meaning =>
    cases node.symm.trans other
    exact ⟨_, read, meaning⟩
  | sequence other | mapping other => cases node.symm.trans other

theorem Settled.sequence_inv {items : List NodeId} (settled : visit.Settled nodes id)
    (node : nodes[id]? = some ⟨tag, .sequence items⟩) :
    visit.meaning? id = some (.list items) ∧ ∀ item ∈ items, visit.Met item := by
  cases settled with
  | sequence other meaning parts =>
    cases node.symm.trans other
    exact ⟨meaning, parts⟩
  | scalar other | mapping other => cases node.symm.trans other

theorem Settled.mapping_inv {entries : List (NodeId × NodeId)} (settled : visit.Settled nodes id)
    (node : nodes[id]? = some ⟨tag, .mapping entries⟩) :
    visit.meaning? id = some (.mapping (gather nodes entries)) ∧
      ∀ entry ∈ entries, visit.Met entry.2 := by
  cases settled with
  | mapping other meaning parts =>
    cases node.symm.trans other
    exact ⟨meaning, parts⟩
  | scalar other | sequence other => cases node.symm.trans other

theorem Settled.kept (settled : visit.Settled nodes id)
    (same : ∀ meaning, visit.meaning? id = some meaning → later.meaning? id = some meaning)
    (met : ∀ other, visit.Met other → later.Met other) : later.Settled nodes id := by
  cases settled with
  | scalar node read meaning => exact .scalar node read (same _ meaning)
  | sequence node meaning parts =>
    exact .sequence node (same _ meaning) fun item member => met item (parts item member)
  | mapping node meaning parts =>
    exact .mapping node (same _ meaning) fun entry member => met entry.2 (parts entry member)

theorem lt_size_of_met (size : visit.meanings.size = nodes.size) (met : visit.Met id) :
    id < nodes.size := by
  rw [← size]
  by_contra outside
  rw [Met, meaning?, Array.getElem?_eq_none (Nat.not_lt.mp outside)] at met
  cases met

theorem meaning?_give_self (inside : id < visit.meanings.size) (meaning : Meaning) :
    (visit.give id meaning).meaning? id = some meaning := by
  rw [meaning?, give, Array.getElem?_setIfInBounds_self_of_lt inside, Option.join_some]

theorem meaning?_give_of_ne (apart : other ≠ id) (meaning : Meaning) :
    (visit.give id meaning).meaning? other = visit.meaning? other := by
  rw [meaning?, give, Array.getElem?_setIfInBounds_ne (Ne.symm apart), meaning?]

theorem met_give (inside : id < visit.meanings.size) (met : visit.Met other) (meaning : Meaning) :
    (visit.give id meaning).Met other := by
  by_cases same : other = id
  · rw [Met, same, meaning?_give_self inside]
    rfl
  · rwa [Met, meaning?_give_of_ne same]

theorem met_of_met_give (met : (visit.give id meaning).Met other) (apart : other ≠ id) :
    visit.Met other := by
  rwa [Met, meaning?_give_of_ne apart] at met

theorem size_give (visit : Visit) (id : NodeId) (meaning : Meaning) :
    (visit.give id meaning).meanings.size = visit.meanings.size :=
  Array.size_setIfInBounds

theorem lt_size_of_node (node : nodes[id]? = some ⟨tag, content⟩) : id < nodes.size :=
  (Array.getElem?_eq_some_iff.mp node).1

/-! ### Meeting a node -/

-- A node that is met for the first time leaves all others as they are.
theorem grows_give (fresh : ¬ visit.Met id) (meaning : Meaning) :
    visit.Grows (visit.give id meaning) where
  meanings := by
    intro other meaning known
    have apart : other ≠ id := by
      rintro rfl
      exact fresh (Option.isSome_iff_exists.mpr ⟨meaning, known⟩)
    rwa [meaning?_give_of_ne apart]
  turns := fun _ _ there => there

theorem grows_takeUp (fresh : ¬ visit.Met id) (meaning : Meaning) :
    visit.Grows (visit.takeUp id meaning) where
  meanings := (grows_give fresh meaning).meanings
  turns := fun place other there => by
    have inside := (Array.getElem?_eq_some_iff.mp there).1
    rw [takeUp, Array.getElem?_push_lt inside, ← there, Array.getElem?_eq_getElem inside]

theorem Sound.give (sound : visit.Sound nodes bad turn) (fresh : ¬ visit.Met id)
    (settled : (visit.give id meaning).Settled nodes id) :
    (visit.give id meaning).Sound nodes bad turn where
  graph := sound.graph
  size := (visit.size_give id meaning).trans sound.size
  inTime := sound.inTime
  single := sound.single
  taken := fun other listed =>
    let ⟨met, rest⟩ := sound.taken other listed
    ⟨(grows_give fresh meaning).met met, rest⟩
  met := by
    intro other met
    by_cases same : other = id
    · exact .inl (same ▸ settled)
    · refine (sound.met other (met_of_met_give met same)).imp_left fun settled => ?_
      exact settled.kept ((grows_give fresh meaning).meanings other)
        fun _ met => (grows_give fresh meaning).met met

theorem Sound.takeUp (sound : visit.Sound nodes bad turn) (fresh : ¬ visit.Met id)
    (visitable : Visitable nodes bad id)
    (collection : IsCollection nodes id) (meaning : Meaning) :
    (visit.takeUp id meaning).Sound nodes bad turn := by
  have grows := grows_takeUp fresh meaning
  have inside : id < visit.meanings.size := by
    obtain ⟨tag, content, node, -⟩ := collection
    exact sound.size ▸ lt_size_of_node node
  have met : (visit.takeUp id meaning).Met id :=
    Option.isSome_iff_exists.mpr ⟨meaning, meaning?_give_self inside meaning⟩
  refine ⟨sound.graph, (visit.size_give id meaning).trans sound.size, ?_, ?_, ?_, ?_⟩
  · rw [Visit.takeUp, Array.size_push]
    exact Nat.le_succ_of_le sound.inTime
  · rw [Visit.takeUp, Array.toList_push]
    refine List.Nodup.append sound.single (List.nodup_singleton id) ?_
    rw [List.disjoint_singleton]
    exact fun listed => fresh (sound.taken id listed).1
  · intro other listed
    rw [Visit.takeUp, Array.toList_push, List.mem_append, List.mem_singleton] at listed
    rcases listed with listed | rfl
    · obtain ⟨met, rest⟩ := sound.taken other listed
      exact ⟨grows.met met, rest⟩
    · exact ⟨met, visitable, collection⟩
  · intro other met
    by_cases same : other = id
    · refine .inr ⟨visit.turns.size, sound.inTime, ?_⟩
      rw [same, Visit.takeUp, Array.getElem?_push_size]
    · rcases sound.met other (met_of_met_give met same) with settled | ⟨place, inTime, there⟩
      · exact .inl (settled.kept (grows.meanings other) fun _ met => grows.met met)
      · exact .inr ⟨place, inTime, grows.turns place other there⟩

theorem meet_collection (graph : visit.nodes = nodes) (visitable : Visitable nodes bad id)
    (collection : IsCollection nodes id) (fresh : ¬ visit.Met id) :
    ∃ meaning, visit.meet id = .ok (visit.takeUp id meaning) := by
  obtain ⟨tag, content, node, noScalar⟩ := collection
  cases visitable with
  | scalar scalar =>
    cases node.symm.trans scalar
    exact absurd rfl (noScalar _)
  | sequence sequence =>
    refine ⟨.list [], ?_⟩
    rw [meet, if_neg fresh, graph, Nodes.tag?_of_node sequence]
  | mapping mapping =>
    refine ⟨.mapping [], ?_⟩
    rw [meet, if_neg fresh, graph, Nodes.tag?_of_node mapping]

theorem scalarMeaning_scalar {text : String} (graph : visit.nodes = nodes)
    (node : nodes[id]? = some ⟨tag, .scalar text⟩) :
    visit.scalarMeaning tag id = (scalarValue tag text).map .plain := by
  have content := Nodes.content?_of_node node
  have read : textOf visit.nodes (visit.nodes.size + 1) id = .ok text := by
    rw [textOf, graph, content]
  rw [scalarMeaning, read, graph, content]
  cases tag <;> rfl

theorem meet_scalar {text : String} (graph : visit.nodes = nodes)
    (node : nodes[id]? = some ⟨tag, .scalar text⟩) (fits : tag.isOfScalars = true)
    (fresh : ¬ visit.Met id) :
    visit.meet id = (scalarValue tag text).map fun value => visit.give id (.plain value) := by
  rw [meet, if_neg fresh, graph, Nodes.tag?_of_node node]
  have meaning := scalarMeaning_scalar graph node
  cases tag
  case sequence | mapping | merge | default | unknown => cases fits
  all_goals
    dsimp only
    rw [meaning]
    cases scalarValue _ text <;> rfl

theorem ends_meet (sound : visit.Sound nodes bad turn) (visitable : Visitable nodes bad id) :
    Ends (fun later => later.Sound nodes bad turn ∧ visit.Grows later ∧ later.Met id) bad
      (visit.meet id) := by
  by_cases met : visit.Met id
  · rw [meet, if_pos met]
    exact ⟨sound, .refl visit, met⟩
  · by_cases collection : IsCollection nodes id
    · obtain ⟨meaning, taken⟩ := meet_collection sound.graph visitable collection met
      have later := sound.takeUp met visitable collection meaning
      rw [taken]
      refine ⟨later, grows_takeUp met meaning, (later.taken id ?_).1⟩
      rw [Visit.takeUp, Array.toList_push]
      exact List.mem_append_right _ (List.mem_singleton_self id)
    · cases visitable with
      | sequence node => exact absurd ⟨_, _, node, nofun⟩ collection
      | mapping node => exact absurd ⟨_, _, node, nofun⟩ collection
      | @scalar _ tag text node fits fails =>
        have inside : id < visit.meanings.size := sound.size ▸ lt_size_of_node node
        rw [meet_scalar sound.graph node fits met]
        cases read : scalarValue tag text with
        | error fault => exact fails fault read
        | ok value =>
          have known := meaning?_give_self inside (.plain value)
          exact ⟨sound.give met (.scalar node read known), grows_give met _,
            Option.isSome_iff_exists.mpr ⟨_, known⟩⟩

/-! ### A turn -/

theorem ends_meetItems {items : List NodeId} (sound : visit.Sound nodes bad turn)
    (parts : ∀ item ∈ items, Visitable nodes bad item) :
    Ends (fun later => later.Sound nodes bad turn ∧ visit.Grows later ∧
      ∀ item ∈ items, later.Met item) bad (items.foldlM meet visit) := by
  induction items generalizing visit with
  | nil => exact ⟨sound, .refl visit, nofun⟩
  | cons item items ih =>
    obtain ⟨first, others⟩ := List.forall_mem_cons.mp parts
    rw [List.foldlM_cons]
    refine (ends_meet sound first).bind fun middle ⟨sound, grows, met⟩ => ?_
    refine (ih sound others).mono fun later ⟨sound, growsStill, metOthers⟩ => ?_
    exact ⟨sound, grows.trans growsStill, List.forall_mem_cons.mpr ⟨growsStill.met met, metOthers⟩⟩

-- A key is no collection, so that it is settled as soon as it is met.
theorem Sound.key (sound : visit.Sound nodes bad turn) (key : IsKey nodes id) (met : visit.Met id) :
    visit.meaning? id = some (.plain (keyOf nodes id)) := by
  obtain ⟨text, node⟩ := key
  rcases sound.met id met with settled | ⟨place, -, there⟩
  · obtain ⟨value, read, meaning⟩ := settled.scalar_inv node
    cases read
    rw [meaning, keyOf, Nodes.content?_of_node node]
  · have listed : id ∈ visit.turns.toList := Array.mem_toList_iff.mpr (Array.mem_of_getElem? there)
    obtain ⟨-, -, tag, content, other, noScalar⟩ := sound.taken id listed
    cases node.symm.trans other
    exact absurd rfl (noScalar text)

theorem ends_meetEntries {entries : List (NodeId × NodeId)} (gathered : List (Value × NodeId))
    (sound : visit.Sound nodes bad turn) (keys : ∀ entry ∈ entries, IsKey nodes entry.1)
    (parts : ∀ entry ∈ entries, Visitable nodes bad entry.2) :
    Ends (fun later => later.2.Sound nodes bad turn ∧ visit.Grows later.2 ∧
      (∀ entry ∈ entries, later.2.Met entry.2) ∧
      later.1 = Value.putKeys gathered (entries.map fun entry => (keyOf nodes entry.1, entry.2)))
      bad (entries.foldlM meetEntry (gathered, visit)) := by
  induction entries generalizing visit gathered with
  | nil => exact ⟨sound, .refl visit, nofun, rfl⟩
  | cons entry entries ih =>
    obtain ⟨isKey, otherKeys⟩ := List.forall_mem_cons.mp keys
    obtain ⟨first, others⟩ := List.forall_mem_cons.mp parts
    rw [List.foldlM_cons]
    have step : Ends (fun later => later.2.Sound nodes bad turn ∧ visit.Grows later.2 ∧
        later.2.Met entry.2 ∧ later.1 = Value.putKey (keyOf nodes entry.1) entry.2 gathered) bad
        (meetEntry (gathered, visit) entry) := by
      refine (ends_meet sound isKey.visitable).bind fun withKey ⟨sound, grows, met⟩ => ?_
      dsimp only
      rw [sound.key isKey met]
      refine (ends_meet sound first).map fun later ⟨sound, growsStill, met⟩ => ?_
      exact ⟨sound, grows.trans growsStill, met, rfl⟩
    refine step.bind fun middle ⟨sound, grows, met, put⟩ => ?_
    refine (ih middle.1 sound otherKeys others).mono
      fun later ⟨sound, growsStill, metOthers, putOthers⟩ => ?_
    refine ⟨sound, grows.trans growsStill, ?_, putOthers.trans ?_⟩
    · exact List.forall_mem_cons.mpr ⟨growsStill.met met, metOthers⟩
    · rw [put, List.map_cons, Value.putKeys_cons]

-- A turn is over when its collection has got its parts.
theorem Sound.settle (sound : visit.Sound nodes bad turn) (next : visit.turns[turn]? = some id)
    (settled : (visit.give id meaning).Settled nodes id) :
    (visit.give id meaning).Sound nodes bad (turn + 1) := by
  have listed : id ∈ visit.turns.toList := Array.mem_toList_iff.mpr (Array.mem_of_getElem? next)
  have inside : id < visit.meanings.size :=
    sound.size ▸ lt_size_of_met sound.size (sound.taken id listed).1
  refine ⟨sound.graph, (visit.size_give id meaning).trans sound.size, ?_, sound.single, ?_, ?_⟩
  · exact (Array.getElem?_eq_some_iff.mp next).1
  · intro other listed
    obtain ⟨met, rest⟩ := sound.taken other listed
    exact ⟨met_give inside met meaning, rest⟩
  · intro other met
    by_cases same : other = id
    · exact .inl (same ▸ settled)
    · rcases sound.met other (met_of_met_give met same) with settled | ⟨place, inTime, there⟩
      · refine .inl (settled.kept (fun _ known => ?_) fun _ met => met_give inside met meaning)
        rwa [meaning?_give_of_ne same]
      · refine .inr ⟨place, Nat.lt_of_le_of_ne inTime ?_, there⟩
        rintro rfl
        exact same (Option.some.inj (there.symm.trans next))

theorem setContent_self (node : nodes[id]? = some ⟨tag, content⟩) :
    nodes.setContent id content = nodes := by
  have inside := lt_size_of_node node
  have same : nodes[id] = ⟨tag, content⟩ := (Array.getElem?_eq_some_iff.mp node).2
  rw [Nodes.setContent, node]
  dsimp only
  rw [← same, Array.setIfInBounds_def, dif_pos inside, Array.set_getElem_self]

theorem settleDefaults_keys {keys : List NodeId} (each : ∀ key ∈ keys, IsKey nodes key) :
    nodes.settleDefaults keys = nodes := by
  induction keys with
  | nil => rfl
  | cons key keys ih =>
    obtain ⟨⟨text, node⟩, others⟩ := List.forall_mem_cons.mp each
    rw [Nodes.settleDefaults, List.foldl_cons, Nodes.tag?_of_node node, if_neg (by decide)]
    exact ih others

-- Without merge keys nothing is merged.
theorem withMerged_keys {entries : List (NodeId × NodeId)}
    (node : nodes[id]? = some ⟨tag, .mapping entries⟩)
    (keys : ∀ entry ∈ entries, IsKey nodes entry.1) : nodes.withMerged id = .ok nodes := by
  have own : entries.takeWhile (fun entry => decide (nodes.tag? entry.1 ≠ some .merge)) = entries := by
    refine List.takeWhile_eq_self_iff.mpr fun entry member => ?_
    obtain ⟨text, key⟩ := keys entry member
    rw [Nodes.tag?_of_node key]
    rfl
  have settled : nodes.settleDefaults (entries.map Prod.fst) = nodes := by
    refine settleDefaults_keys fun key member => ?_
    obtain ⟨entry, listed, rfl⟩ := List.mem_map.mp member
    exact keys entry listed
  have listed : nodes.entries id = entries := by
    rw [Nodes.entries, Nodes.content?_of_node node]
  rw [Nodes.withMerged, Nodes.mergeFrom]
  simp only [listed, List.drop_zero, own, settled, Nat.zero_add, List.getElem?_length,
    List.nil_append, setContent_self node]

theorem ends_visitParts (sound : visit.Sound nodes bad turn)
    (next : visit.turns[turn]? = some id) :
    Ends (fun later => later.Sound nodes bad (turn + 1) ∧ ∀ other, visit.Met other → later.Met other)
      bad (visit.visitParts id) := by
  have listed : id ∈ visit.turns.toList := Array.mem_toList_iff.mpr (Array.mem_of_getElem? next)
  obtain ⟨met, visitable, tag, content, node, noScalar⟩ := sound.taken id listed
  have inside : ∀ {later : Visit}, later.Sound nodes bad turn → id < later.meanings.size :=
    fun later => later.size ▸ lt_size_of_node node
  cases visitable with
  | scalar scalar =>
    cases node.symm.trans scalar
    exact absurd rfl (noScalar _)
  | @sequence _ items sequence parts =>
    rw [visitParts, sound.graph, Nodes.tag?_of_node sequence, Nodes.content?_of_node sequence]
    refine (ends_meetItems sound parts).bind fun later ⟨sound, grows, metParts⟩ => ?_
    have known := meaning?_give_self (inside sound) (.list items)
    refine ⟨sound.settle (grows.turns turn id next) (.sequence sequence known fun item member => ?_),
      fun other met => met_give (inside sound) (grows.met met) _⟩
    exact met_give (inside sound) (metParts item member) _
  | @mapping _ entries mapping keys parts =>
    have same : { visit with nodes } = visit := by
      rw [← sound.graph]
    have listed : nodes.entries id = entries := by
      rw [Nodes.entries, Nodes.content?_of_node mapping]
    rw [visitParts, sound.graph, Nodes.tag?_of_node mapping, Nodes.content?_of_node mapping]
    dsimp only
    rw [withMerged_keys mapping keys]
    change Ends _ bad (((nodes.entries id).foldlM meetEntry ([], { visit with nodes })).bind _)
    rw [same, listed]
    refine (ends_meetEntries [] sound keys parts).bind
      fun ⟨gathered, later⟩ ⟨sound, grows, metParts, put⟩ => ?_
    have known := meaning?_give_self (inside sound) (.mapping gathered)
    have known' : (later.give id (.mapping gathered)).meaning? id =
        some (.mapping (gather nodes entries)) := by
      rw [known, show gathered = gather nodes entries from put]
    refine ⟨sound.settle (grows.turns turn id next) (.mapping mapping known' fun entry member => ?_),
      fun other met => met_give (inside sound) (grows.met met) _⟩
    exact met_give (inside sound) (metParts entry member) _

/-! ### The whole visit -/

-- No node has two turns.
theorem Sound.size_turns_le (sound : visit.Sound nodes bad turn) :
    visit.turns.size ≤ nodes.size := by
  have among : visit.turns.toList ⊆ List.range nodes.size := fun id listed =>
    List.mem_range.mpr (lt_size_of_met sound.size (sound.taken id listed).1)
  have bound := (List.subperm_of_subset sound.single among).length_le
  rwa [List.length_range, Array.length_toList] at bound

/-- Every node that was met stands for what it says. -/
def Complete (nodes : Nodes) (visit : Visit) : Prop :=
  ∀ id, visit.Met id → visit.Settled nodes id

theorem Sound.complete (sound : visit.Sound nodes bad turn) (ended : visit.turns.size ≤ turn) :
    visit.Complete nodes := by
  intro id met
  rcases sound.met id met with settled | ⟨place, inTime, there⟩
  · exact settled
  · have bound := (Array.getElem?_eq_some_iff.mp there).1
    omega

theorem ends_finish {steps : Nat} (sound : visit.Sound nodes bad turn)
    (enough : nodes.size ≤ turn + steps) :
    Ends (fun last => last.Complete nodes ∧ ∀ id, visit.Met id → last.Met id) bad
      (finish steps turn visit) := by
  induction steps generalizing visit turn with
  | zero => exact ⟨sound.complete (Nat.le_trans sound.size_turns_le enough), fun _ => id⟩
  | succ steps ih =>
    rw [finish]
    cases next : visit.turns[turn]? with
    | none => exact ⟨sound.complete (Array.getElem?_eq_none_iff.mp next), fun _ => id⟩
    | some id =>
      refine (ends_visitParts sound next).bind fun later ⟨soundStill, met⟩ => ?_
      refine (ih soundStill (by omega)).mono fun last ⟨complete, metStill⟩ => ?_
      exact ⟨complete, fun other known => metStill other (met other known)⟩

theorem sound_start (nodes : Nodes) (bad : Fault → Prop) : (start nodes).Sound nodes bad 0 := by
  have nothing : ∀ id, ¬ (start nodes).Met id := by
    intro id met
    rw [Met, meaning?, start, Array.getElem?_replicate] at met
    split at met <;> cases met
  refine ⟨rfl, Array.size_replicate, Nat.zero_le _, List.nodup_nil, nofun, ?_⟩
  exact fun id met => absurd met (nothing id)

end Visit

end Yaml

end PrismaNest
