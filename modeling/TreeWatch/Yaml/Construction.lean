import TreeWatch.Yaml.Merging
import TreeWatch.Yaml.ScalarValue
import TreeWatch.Value.NumberTable

/-!
# From nodes to values and collections

A scalar is read when it is first met. A collection is noted then and filled later, after all those
noted before it; so among several problems of a document that of the least depth counts, and of
these the first. Merges change nodes while collections are filled, which is why the order matters
for what comes out as well.
-/

namespace TreeWatch.Yaml

namespace Tag

def isCollection : Tag → Bool
  | omap | pairs | set | sequence | mapping => true
  | _ => false

end Tag

inductive Made where
  | single (v : Value)
  /-- A collection, which is known by its node. -/
  | collection
  deriving Inhabited

inductive Content where
  | unfilled
  | items (ids : List NodeId)
  | entries (pairs : List (NodeId × NodeId))
  | members (ids : List NodeId)
  | pairs (pairs : List (NodeId × NodeId))
  deriving Inhabited

/-- A document whose nodes are being read as values. -/
structure Construction where
  nodes : Nodes
  made : Array (Option Made)
  contents : Array Content
  /-- The collections to be filled, the newest first. -/
  waiting : List NodeId := []

namespace Construction

def made? (c : Construction) (id : NodeId) : Option Made :=
  c.made[id]?.join

def single? (c : Construction) (id : NodeId) : Option Value :=
  match c.made? id with
  | some (.single v) => some v
  | _ => none

def contentOf (c : Construction) (id : NodeId) : Content :=
  c.contents[id]?.getD .unfilled

/-- Whether two nodes are one key of a mapping. A node is always the same key as itself, even if
its value is no number. -/
def sameKey (c : Construction) (a b : NodeId) : Bool :=
  a = b ||
    match c.single? a, c.single? b with
    | some v, some w => v.sameKey w
    | _, _ => false

/-- Gives a key a value: a key that is there keeps its place and its spelling. -/
def put (c : Construction) (key value : NodeId) :
    List (NodeId × NodeId) → List (NodeId × NodeId)
  | [] => [(key, value)]
  | e :: rest => if c.sameKey e.1 key then (e.1, value) :: rest else e :: put c key value rest

/-- The text of a node where a scalar is asked for. A mapping gives that of its value key, and one
that leads back to itself has none. -/
def scalarText (nodes : Nodes) : Nat → NodeId → Except Problem ScalarText
  | 0, _ => refuse .endless
  | fuel + 1, id =>
    match nodes[id]? with
    | some (.scalar _ text) => .ok text
    | some (.mapping _ entries) =>
      match entries.find? fun e => nodes.tag? e.1 = some .value with
      | some (_, value) => scalarText nodes fuel value
      | none => .error .notDocument
    | _ => .error .notDocument

/-- The value of a node under a tag for single values. A point in time is not read out of a
mapping. -/
def singleValue (nodes : Nodes) (id : NodeId) : Node → Except Problem Value
  | .scalar tag text => valueOfScalar tag text
  | n =>
    match n.tag with
    | .null | .bool | .int | .float | .binary | .text => do
      valueOfScalar n.tag (← scalarText nodes (nodes.size + 1) id)
    | .timestamp => do
      let _ ← scalarText nodes (nodes.size + 1) id
      refuse .wrongKind
    | _ => .error .notDocument

def meet (c : Construction) (id : NodeId) : Except Problem Construction :=
  match c.made? id, c.nodes[id]? with
  | some _, _ => .ok c
  | none, none => .error .notDocument
  | none, some n =>
    if n.tag.isCollection then
      .ok { c with
        made := c.made.setIfInBounds id (some .collection)
        waiting := id :: c.waiting }
    else do
      let v ← singleValue c.nodes id n
      .ok { c with made := c.made.setIfInBounds id (some (.single v)) }

def meetAll (c : Construction) (ids : List NodeId) : Except Problem Construction :=
  ids.foldlM meet c

/-- Meets the entries of a mapping in order and gives them. A collection is no key. -/
def meetEntries (c : Construction) (entries : List (NodeId × NodeId)) :
    Except Problem (List (NodeId × NodeId) × Construction) :=
  entries.foldlM (fun (pairs, c) (key, value) => do
    let c ← c.meet key
    if (c.single? key).isNone then .error .notDocument
    else
      let c ← c.meet value
      .ok (c.put key value pairs, c)) ([], c)

def meetPairs (c : Construction) (items : List NodeId) :
    Except Problem (List (NodeId × NodeId) × Construction) :=
  items.foldlM (fun (pairs, c) item =>
    match c.nodes.entriesOf? item with
    | some [(key, value)] => do
      let c ← (← c.meet key).meet value
      .ok (pairs ++ [(key, value)], c)
    | _ => .error .notDocument) ([], c)

def setContent (c : Construction) (id : NodeId) (content : Content) : Construction :=
  { c with contents := c.contents.setIfInBounds id content }

def fill (c : Construction) (id : NodeId) : Except Problem Construction :=
  match c.nodes[id]? with
  | some (.sequence .sequence items) => do
    let c ← c.meetAll items
    .ok (c.setContent id (.items items))
  | some (.sequence .omap items) | some (.sequence .pairs items) => do
    let (pairs, c) ← c.meetPairs items
    .ok (c.setContent id (.pairs pairs))
  | some (.mapping .mapping _) => do
    let nodes ← c.nodes.mergeInto id
    let (entries, c) ← { c with nodes }.meetEntries ((nodes.entriesOf? id).getD [])
    .ok (c.setContent id (.entries entries))
  | some (.mapping .set _) => do
    let nodes ← c.nodes.mergeInto id
    let (entries, c) ← { c with nodes }.meetEntries ((nodes.entriesOf? id).getD [])
    let valueOf (key : NodeId) := (c.single? key).getD .null
    .ok (c.setContent id (.members (NumberTable.order valueOf (entries.map (·.1)))))
  | _ => .error .notDocument

/-- Fills the collections that wait, then those that were met meanwhile, and so on. -/
def fillAll : Nat → Construction → Except Problem Construction
  | 0, c => .ok c
  | fuel + 1, c =>
    match c.waiting with
    | [] => .ok c
    | waiting => do
      let c ← waiting.reverse.foldlM fill { c with waiting := [] }
      fillAll fuel c

/-- Everything in a document. Each collection waits once, so their count bounds the rounds. -/
def ofDocument (d : Document) : Except Problem Construction := do
  let count := d.nodes.size
  let start : Construction :=
    { nodes := d.nodes
      made := Array.replicate count none
      contents := Array.replicate count .unfilled }
  fillAll (count + 1) (← start.meet d.root)

end Construction

end TreeWatch.Yaml
