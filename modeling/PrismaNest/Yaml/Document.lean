import PrismaNest.Text.Lines
import PrismaNest.Yaml.Composition
import PrismaNest.Yaml.Merge
import PrismaNest.Yaml.Scalar

/-! Reading YAML documents.

The nodes of a document are visited level by level from the root, each once. The first
fault counts. A collection is taken up when it is met, and its parts are visited when
its turn comes, so that it may contain itself. A key that comes again keeps its place
and takes the later value.
-/

set_option autoImplicit false

namespace PrismaNest.Yaml

/-- What a node stands for: a value without parts, or a collection of nodes. -/
inductive Meaning where
  | plain (value : Value)
  | list (items : List NodeId)
  | mapping (entries : List (Value × NodeId))
  deriving Repr

/-- A visit of the nodes of a graph: what they stand for as far as it is known, and the
collections whose turn comes, in order. -/
structure Visit where
  nodes : Nodes
  meanings : Array (Option Meaning)
  turns : Array NodeId

/-- The text of a node that is read as a scalar. A mapping stands for the value under its default
key. -/
def textOf (nodes : Nodes) : Nat → NodeId → Read String
  | 0, _ => .error (.scalar .endless)
  | fuel + 1, id =>
    match nodes.content? id with
    | some (.scalar text) => .ok text
    | some (.mapping entries) =>
      match entries.find? fun entry => nodes.tag? entry.1 = some .default with
      | some (_, value) => textOf nodes fuel value
      | none => malformed
    | _ => malformed

namespace Visit

def start (nodes : Nodes) : Visit :=
  ⟨nodes, Array.replicate nodes.size none, #[]⟩

def meaning? (visit : Visit) (id : NodeId) : Option Meaning :=
  visit.meanings[id]?.join

def give (visit : Visit) (id : NodeId) (meaning : Meaning) : Visit :=
  { visit with meanings := visit.meanings.setIfInBounds id (some meaning) }

def takeUp (visit : Visit) (id : NodeId) (meaning : Meaning) : Visit :=
  { visit.give id meaning with turns := visit.turns.push id }

def scalarMeaning (visit : Visit) (tag : Tag) (id : NodeId) : Read Meaning := do
  let text ← textOf visit.nodes (visit.nodes.size + 1) id
  match tag, visit.nodes.content? id with
  | .timestamp, some (.mapping _) => .error (.scalar .momentOfMapping)
  | _, _ => return .plain (← scalarValue tag text)

def meet (visit : Visit) (id : NodeId) : Read Visit :=
  if (visit.meaning? id).isSome then .ok visit
  else
    match visit.nodes.tag? id with
    | none | some .merge | some .default | some .unknown => malformed
    | some .sequence => .ok (visit.takeUp id (.list []))
    | some .mapping => .ok (visit.takeUp id (.mapping []))
    | some tag => (visit.scalarMeaning tag id).map (visit.give id)

/-- Meets the key and the value of an entry, after other entries. What has parts is no key. -/
def meetEntry (gathered : List (Value × NodeId) × Visit) (entry : NodeId × NodeId) :
    Read (List (Value × NodeId) × Visit) := do
  let withKey ← gathered.2.meet entry.1
  match withKey.meaning? entry.1 with
  | some (.plain key) =>
    return (Value.putKey key entry.2 gathered.1, ← withKey.meet entry.2)
  | _ => malformed

/-- Visits the parts of a collection. Its content must be what its tag says. -/
def visitParts (visit : Visit) (id : NodeId) : Read Visit := do
  match visit.nodes.tag? id, visit.nodes.content? id with
  | some .sequence, some (.sequence items) =>
    return (← items.foldlM meet visit).give id (.list items)
  | some .mapping, some (.mapping _) =>
    let nodes ← visit.nodes.withMerged id
    let (entries, last) ← (nodes.entries id).foldlM meetEntry ([], { visit with nodes })
    return last.give id (.mapping entries)
  | _, _ => malformed

/-- Visits the collections from a turn on. There are no more turns than nodes. -/
def finish : Nat → Nat → Visit → Read Visit
  | 0, _, visit => .ok visit
  | steps + 1, turn, visit =>
    match visit.turns[turn]? with
    | none => .ok visit
    | some id => (visit.visitParts id).bind (finish steps (turn + 1))

/-- The value of a node inside some collections, the nearest first. -/
def valueWithin (visit : Visit) : Nat → List NodeId → NodeId → Value
  | 0, _, _ => .null
  | fuel + 1, around, id =>
    match around.idxOf? id, visit.meaning? id with
    | some between, _ => .enclosing between
    | none, none => .null
    | none, some (.plain value) => value
    | none, some (.list items) => .list (items.map (visit.valueWithin fuel (id :: around)))
    | none, some (.mapping entries) =>
      .mapping (entries.map fun entry => (entry.1, visit.valueWithin fuel (id :: around) entry.2))

end Visit

/-- The value of the root of a graph. A node lies in fewer collections than there are nodes. -/
def Graph.valueOf (graph : Graph) (root : NodeId) : Read Value := do
  let size := graph.nodes.size
  let visit ← ((Visit.start graph.nodes).meet root).bind (Visit.finish size 0)
  return visit.valueWithin (size + 1) [] root

/-- The value of the document in a text; a text without a document has the null value. -/
def read (text : String) : Read Value := do
  if !text.toList.all isAllowed then malformed
  else
    let chars := (Text.normalizeLineEnds text.toList).map fun c => if c = '\u0085' then '\n' else c
    match ← Graph.ofTokens (tokens chars) with
    | none => return .null
    | some (root, graph) => graph.valueOf root

end PrismaNest.Yaml
