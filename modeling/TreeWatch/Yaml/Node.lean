import TreeWatch.Yaml.Tag
import TreeWatch.Yaml.Token

/-!
# Nodes

The structure of a document, before its nodes are read as values. Nodes are known by their numbers,
because one may stand in several places, even within itself.
-/

namespace TreeWatch.Yaml

/-- The number by which a node is known in its document. -/
abbrev NodeId := Nat

inductive Node where
  | scalar (tag : Tag) (text : ScalarText)
  | sequence (tag : Tag) (items : List NodeId)
  | mapping (tag : Tag) (entries : List (NodeId × NodeId))
  deriving DecidableEq

namespace Node

def tag : Node → Tag
  | scalar tag _ | sequence tag _ | mapping tag _ => tag

def withTag (tag : Tag) : Node → Node
  | scalar _ text => scalar tag text
  | sequence _ items => sequence tag items
  | mapping _ entries => mapping tag entries

def entries? : Node → Option (List (NodeId × NodeId))
  | mapping _ entries => some entries
  | _ => none

def empty : Node :=
  scalar .null (.whole "")

end Node

abbrev Nodes := Array Node

namespace Nodes

def tag? (nodes : Nodes) (id : NodeId) : Option Tag :=
  nodes[id]?.map Node.tag

def change (nodes : Nodes) (id : NodeId) (f : Node → Node) : Nodes :=
  nodes.modify id f

end Nodes

structure Document where
  nodes : Nodes
  root : NodeId

end TreeWatch.Yaml
