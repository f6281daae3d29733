import TreeWatch.Yaml.Cursor
import TreeWatch.Yaml.Node

/-!
# Merging mappings

A mapping may ask for the entries of others. They are put in front of its own entries, so that its
own ones win, and the keys that asked for them are taken out. This changes the node itself, wherever
else it stands.
-/

namespace TreeWatch.Yaml.Nodes

/-- The entries of a mapping in two parts around the first of them whose key asks for a merge. -/
def splitAtMerge (nodes : Nodes) :
    List (NodeId × NodeId) → Option (List (NodeId × NodeId) × NodeId × List (NodeId × NodeId))
  | [] => none
  | (key, value) :: rest =>
    if nodes.tag? key = some .merge then some ([], value, rest)
    else (splitAtMerge nodes rest).map fun (front, found, behind) =>
      ((key, value) :: front, found, behind)

def entriesOf? (nodes : Nodes) (id : NodeId) : Option (List (NodeId × NodeId)) :=
  nodes[id]?.bind Node.entries?

def setEntries (nodes : Nodes) (id : NodeId) (entries : List (NodeId × NodeId)) : Nodes :=
  nodes.change id fun n => .mapping n.tag entries

/-- The nodes with the keys that stand for a value made ordinary texts. -/
def nameValueKeys (nodes : Nodes) (entries : List (NodeId × NodeId)) : Nodes :=
  entries.foldl (fun nodes (key, _) =>
    if nodes.tag? key = some .value then nodes.change key (Node.withTag .text) else nodes) nodes

def mergeCount (nodes : Nodes) : Nat :=
  nodes.foldl (fun count n =>
    count + ((n.entries?.getD []).filter fun e => nodes.tag? e.1 = some .merge).length) 0

def mergeEach (merge : Nodes → NodeId → Except Problem Nodes) (nodes : Nodes) :
    List NodeId → Except Problem (Nodes × List (List (NodeId × NodeId)))
  | [] => .ok (nodes, [])
  | id :: rest =>
    match nodes[id]? with
    | some (.mapping _ _) => do
      let nodes ← merge nodes id
      let entries := (nodes.entriesOf? id).getD []
      let (nodes, groups) ← mergeEach merge nodes rest
      .ok (nodes, entries :: groups)
    | _ => .error .notDocument

/-- Carries out the merges of a mapping that are left, with the entries `merged` that those before
them gave. Every merge takes an entry away, so the count of those bounds the steps. -/
def mergeRest : Nat → Nodes → NodeId → List (NodeId × NodeId) → Except Problem Nodes
  | 0, _, _, _ => .error .notDocument
  | fuel + 1, nodes, id, merged =>
    let entries := (nodes.entriesOf? id).getD []
    match nodes.splitAtMerge entries with
    | none => .ok ((nodes.nameValueKeys entries).setEntries id (merged ++ entries))
    | some (front, value, behind) => do
      let nodes := nodes.setEntries id (front ++ behind)
      match nodes[value]? with
      | some (.mapping _ _) =>
        let nodes ← mergeRest fuel nodes value []
        mergeRest fuel nodes id (merged ++ (nodes.entriesOf? value).getD [])
      | some (.sequence _ items) =>
        let (nodes, groups) ← mergeEach (fun nodes id => mergeRest fuel nodes id []) nodes items
        mergeRest fuel nodes id (merged ++ groups.reverse.flatten)
      | _ => .error .notDocument

def mergeInto (nodes : Nodes) (id : NodeId) : Except Problem Nodes :=
  mergeRest (nodes.mergeCount + 1) nodes id []

end TreeWatch.Yaml.Nodes
