import PrismaNest.Yaml.Graph

/-! Merge keys.

A mapping takes over the entries of the mappings under its merge keys, which come
before its own. Of a list of mappings the first takes precedence, so its entries come
last. The mappings that are merged have their own merge keys replaced first. A default
key that is met on the way counts as text from then on.
-/

set_option autoImplicit false

namespace PrismaNest.Yaml.Nodes

def settleDefaults (nodes : Nodes) (keys : List NodeId) : Nodes :=
  keys.foldl (fun nodes key =>
    if nodes.tag? key = some .default then nodes.setTag key .text else nodes) nodes

/-- Replaces the merge keys of a mapping from a position on, where the merge keys before it have
brought in some entries. A merge key is taken out before its value is looked at, so a mapping
that is merged into itself brings in its other entries. -/
def mergeFrom : Nat → Nodes → NodeId → Nat → List (NodeId × NodeId) → Read Nodes
  | 0, _, _, _, _ => malformed
  | fuel + 1, nodes, id, position, brought =>
    let entries := nodes.entries id
    let own := (entries.drop position).takeWhile fun entry => nodes.tag? entry.1 ≠ some .merge
    let settled := nodes.settleDefaults (own.map Prod.fst)
    let place := position + own.length
    match entries[place]? with
    | none => .ok (settled.setContent id (.mapping (brought ++ entries)))
    | some (_, value) => do
      let without := settled.setContent id (.mapping (entries.eraseIdx place))
      match without.content? value with
      | some (.mapping _) => do
        let next ← mergeFrom fuel without value 0 []
        mergeFrom fuel next id place (brought ++ next.entries value)
      | some (.sequence items) => do
        let (next, parts) ← items.foldlM (fun (nodes, parts) item => do
          match nodes.content? item with
          | some (.mapping _) =>
            let next ← mergeFrom fuel nodes item 0 []
            return (next, next.entries item :: parts)
          | _ => malformed) (without, ([] : List (List (NodeId × NodeId))))
        mergeFrom fuel next id place (brought ++ parts.flatten)
      | _ => malformed

/-- The nodes after the merge keys of a mapping have been replaced. Each of them is taken out once,
so no more steps than entries are needed. -/
def withMerged (nodes : Nodes) (id : NodeId) : Read Nodes :=
  let count := nodes.foldl (fun total node =>
    match node.content with
    | .mapping entries => total + entries.length
    | _ => total) 0
  mergeFrom (count + 1) nodes id 0 []

end PrismaNest.Yaml.Nodes
