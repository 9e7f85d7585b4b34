import PrismaNest.Yaml.Fault
import PrismaNest.Yaml.Tag

/-! Graphs of nodes.

A node has a tag and a content. The parts of a collection are given by their numbers,
so that one node may stand in several places, and even inside itself. An anchor names
a node from the place where it starts.
-/

set_option autoImplicit false

namespace PrismaNest.Yaml

abbrev NodeId := Nat

inductive Content where
  | scalar (text : String)
  | sequence (items : List NodeId)
  | mapping (entries : List (NodeId × NodeId))
  deriving DecidableEq, Repr

structure Node where
  tag : Tag
  content : Content
  deriving DecidableEq, Repr

abbrev Nodes := Array Node

namespace Nodes

def tag? (nodes : Nodes) (id : NodeId) : Option Tag :=
  nodes[id]?.map Node.tag

def content? (nodes : Nodes) (id : NodeId) : Option Content :=
  nodes[id]?.map Node.content

def entries (nodes : Nodes) (id : NodeId) : List (NodeId × NodeId) :=
  match nodes.content? id with
  | some (.mapping entries) => entries
  | _ => []

def setTag (nodes : Nodes) (id : NodeId) (tag : Tag) : Nodes :=
  match nodes[id]? with
  | some node => nodes.setIfInBounds id { node with tag }
  | none => nodes

def setContent (nodes : Nodes) (id : NodeId) (content : Content) : Nodes :=
  match nodes[id]? with
  | some node => nodes.setIfInBounds id { node with content }
  | none => nodes

end Nodes

structure Graph where
  nodes : Nodes
  anchors : List (String × NodeId)

namespace Graph

def empty : Graph :=
  ⟨#[], []⟩

def anchored (graph : Graph) (name : String) : Read NodeId :=
  match graph.anchors.lookup name with
  | some id => .ok id
  | none => malformed

/-- Adds a node, at an anchor if one is given. An anchor must not be declared twice. -/
def add (anchor : Option String) (node : Node) (graph : Graph) : Read (NodeId × Graph) :=
  let { nodes, anchors } := graph
  match anchor with
  | none => .ok (nodes.size, ⟨nodes.push node, anchors⟩)
  | some name =>
    if (anchors.lookup name).isSome then malformed
    else .ok (nodes.size, ⟨nodes.push node, (name, nodes.size) :: anchors⟩)

def addEmpty (graph : Graph) : NodeId × Graph :=
  let { nodes, anchors } := graph
  (nodes.size, ⟨nodes.push ⟨.null, .scalar ""⟩, anchors⟩)

def fill (graph : Graph) (id : NodeId) (content : Content) : Graph :=
  { graph with nodes := graph.nodes.setContent id content }

end Graph

end PrismaNest.Yaml
