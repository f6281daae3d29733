import TreeWatch.Yaml.Construction
import TreeWatch.Value.Literal

/-!
# From collections to values

A value is a tree, so a collection is written out in every place where it stands. One that holds
itself cannot be; what is left of it is the way in which it is written in a message, cut where it
comes back to itself. Mappings are written out as far as possible, because layers of settings are
mappings within mappings.
-/

namespace TreeWatch.Yaml

inductive Outcome where
  | nothing
  | entries (entries : Entries)
  | other

namespace Content

def parts : Content → List NodeId
  | unfilled => []
  | items ids | members ids => ids
  | .entries es | .pairs es => es.flatMap fun (key, value) => [key, value]

def isMapping : Content → Bool
  | entries _ => true
  | _ => false

end Content

namespace Construction

/-- The parts of a collection that have parts in turn. -/
def inner (c : Construction) (id : NodeId) : List NodeId :=
  (c.contentOf id).parts.filter fun part => (c.single? part).isNone

def innerMappings (c : Construction) (id : NodeId) : List NodeId :=
  if (c.contentOf id).isMapping then
    (c.inner id).filter fun part => (c.contentOf part).isMapping
  else []

/-- Marks the nodes all of whose parts are marked, the last one first. -/
def markRound (parts : NodeId → List NodeId) (marks : Array Bool) : Array Bool :=
  marks.size.fold (fun i _ marks =>
    let id := marks.size - 1 - i
    if (parts id).all fun part => marks.getD part false then marks.setIfInBounds id true
    else marks) marks

def markRounds (parts : NodeId → List NodeId) : Nat → Array Bool → Array Bool
  | 0, marks => marks
  | fuel + 1, marks =>
    let next := markRound parts marks
    if next = marks then marks else markRounds parts fuel next

/-- The nodes from which no way along their parts goes on without end. -/
def bounded (c : Construction) (parts : NodeId → List NodeId) : Array Bool :=
  let count := c.nodes.size
  markRounds parts (count + 1) (Array.replicate count false)

/-- How a node is written in a message; those that are `begun` are not written once more within
themselves. -/
def literal (c : Construction) (begun : List NodeId) : Nat → NodeId → String
  | 0, _ => ""
  | fuel + 1, id =>
    match c.single? id with
    | some v => v.literal
    | none =>
      let content := c.contentOf id
      if begun.contains id then (if content.isMapping then "\x7b...\x7d" else "[...]")
      else
        let written := literal c (id :: begun) fuel
        match content with
        | .unfilled => ""
        | .items ids => Value.listLiteral (ids.map written)
        | .members ids => Value.setLiteral (ids.map written)
        | .entries pairs =>
          Value.mapLiteral (pairs.map fun (key, value) => written key ++ ": " ++ written value)
        | .pairs pairs =>
          Value.listLiteral (pairs.map fun (key, value) =>
            Value.tupleLiteral [written key, written value])

def unfoldEntries (c : Construction) (unfold : NodeId → Value)
    (pairs : List (NodeId × NodeId)) : Entries :=
  pairs.map fun (key, value) => ((c.single? key).getD .null, unfold value)

/-- The value of a node. Those that are `tame` lead to nothing that holds itself, and those that are
`flat` do not along mappings alone. -/
def unfold (c : Construction) (tame flat : Array Bool) : Nat → NodeId → Value
  | 0, _ => .null
  | fuel + 1, id =>
    match c.single? id with
    | some v => v
    | none =>
      let content := c.contentOf id
      let knot (isMapping : Bool) := Value.knot isMapping (c.literal [] (c.nodes.size + 1) id)
      match content with
      | .entries pairs =>
        if flat.getD id false then .map (c.unfoldEntries (unfold c tame flat fuel) pairs)
        else knot true
      | content =>
        if tame.getD id false then
          match content with
          | .items ids => .list (ids.map (unfold c tame flat fuel))
          | .members ids => .set (ids.map (unfold c tame flat fuel))
          | .pairs pairs =>
            .list (pairs.map fun (key, value) =>
              .tuple [unfold c tame flat fuel key, unfold c tame flat fuel value])
          | _ => .null
        else knot false

def outcome (c : Construction) (root : NodeId) : Outcome :=
  match c.single? root with
  | some .null => .nothing
  | some _ => .other
  | none =>
    match c.contentOf root with
    | .entries pairs =>
      let tame := c.bounded c.inner
      let flat := c.bounded c.innerMappings
      .entries (c.unfoldEntries (c.unfold tame flat (c.nodes.size + 1)) pairs)
    | _ => .other

end Construction

end TreeWatch.Yaml
