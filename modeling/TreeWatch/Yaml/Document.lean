import TreeWatch.Yaml.Token
import TreeWatch.Yaml.Node
import TreeWatch.Yaml.Lexer

/-!
# From tokens to a document

A text holds one document at most. Names of anchors belong to the document, so that a node may
stand in several places; it has its number before its parts are read, so that it may stand within
itself. Where the tokens end before a problem, that problem is met as soon as the next token is
asked for, and not before.
-/

namespace TreeWatch.Yaml

/-- What the start of a document settles for the rest of it. -/
structure Prologue where
  handles : List (String × String) := [("!", "!"), ("!!", Tag.common)]
  /-- The problem behind the last token, if the text does not end there. -/
  ending : Option Problem := none

/-- The count of collections that may be open at a time. -/
def depthLimit : Nat :=
  488

/-- The tokens to go, with the nodes so far, the numbers of those with anchors, the newest first,
and the count of collections that may still be opened. -/
structure Reading where
  tokens : List Token
  nodes : Nodes := #[]
  anchors : List (String × NodeId) := []
  room : Nat := depthLimit

/-- What stands before the content of a node: its anchor and the full name of its tag. -/
structure Properties where
  anchor : Option String := none
  tag : Option String := none

namespace Properties

def collectionTag (p : Properties) (ordinary : Tag) : Tag :=
  match p.tag with
  | none | some "!" => ordinary
  | some name => Tag.ofName name

/-- The tag of a scalar. Without quotes its form decides, and so it does for a lone mark. -/
def scalarTag (p : Properties) (isPlain : Bool) (text : ScalarText) : Tag :=
  let ofForm : Tag := match text with
    | .whole text => Tag.ofForm text
    | .halves _ => .text
  match p.tag with
  | none => if isPlain then ofForm else .text
  | some "!" => ofForm
  | some name => Tag.ofName name

end Properties

namespace Prologue

def shortage (d : Prologue) : Problem :=
  d.ending.getD .notDocument

/-- Looks whether the tokens go on, or end where the text ends. -/
def look (d : Prologue) (tokens : List Token) : Except Problem Unit :=
  match tokens, d.ending with
  | [], some problem => .error problem
  | _, _ => .ok ()

def tagName (d : Prologue) : Option String → String → Except Problem String
  | none, suffix => .ok suffix
  | some handle, suffix =>
    match d.handles.find? (·.1 = handle) with
    | some (_, target) => .ok (target ++ suffix)
    | none => .error .notDocument

/-- The properties at the start of some tokens, and the tokens behind them. Either may come first;
a single one is known for that by the next token. -/
def properties (d : Prologue) : List Token → Except Problem (Properties × List Token)
  | .anchor a :: .tag handle suffix :: rest | .tag handle suffix :: .anchor a :: rest => do
    .ok ({ anchor := some a, tag := some (← d.tagName handle suffix) }, rest)
  | .anchor a :: rest => .ok ({ anchor := some a }, rest)
  | .tag handle suffix :: rest => do
    d.look rest
    .ok ({ tag := some (← d.tagName handle suffix) }, rest)
  | tokens => .ok ({}, tokens)

end Prologue

namespace Reading

def anchored? (r : Reading) (name : String) : Option NodeId :=
  (r.anchors.find? (·.1 = name)).map (·.2)

def add (n : Node) (anchor : Option String) (r : Reading) : NodeId × Reading :=
  let id := r.nodes.size
  (id, { r with
    nodes := r.nodes.push n
    anchors := (anchor.map (·, id)).toList ++ r.anchors })

def complete (id : NodeId) (n : Node) (r : Reading) : Reading :=
  { r with nodes := r.nodes.change id fun _ => n }

end Reading

/-- Where a node stands: within brackets, in a block, or in a mapping of a block, whose sequences
need no indentation of their own. -/
inductive Position where
  | inFlow
  | inBlock
  | inMapping
  deriving DecidableEq

abbrev Reader (α : Type) := Reading → Except Problem (α × Reading)

/-- A node that is there unless one of some tokens comes first. -/
def optionalNode (absent : Token → Bool) (read : Reader NodeId) : Reader NodeId := fun r =>
  if r.tokens.head?.any absent then .ok (r.add .empty none) else read r

/-- A collection of parts that are still to be read. It is there before its parts are. -/
def collection {α : Type} (anchor : Option String) (build : List α → Node)
    (parts : Reader (List α)) : Reader NodeId := fun r =>
  match r.room with
  | 0 => .error (.refused .endless)
  | room + 1 => do
    let (id, r) := r.add (build []) anchor
    let (parts, r) ← parts { r with room }
    .ok (id, { r.complete id (build parts) with room := room + 1 })

def endsBlockPart : Token → Bool
  | .key | .value | .blockEnd => true
  | _ => false

mutual

def node (d : Prologue) (position : Position) : Nat → Reader NodeId
  | 0, _ => .error .notDocument
  | fuel + 1, r =>
    match r.tokens with
    | .alias name :: tokens =>
      match r.anchored? name with
      | some id => .ok (id, { r with tokens })
      | none => .error .notDocument
    | _ => do
      let (p, tokens) ← d.properties r.tokens
      d.look tokens
      if p.anchor.any fun a => (r.anchored? a).isSome then .error .notDocument
      else
        let sequence (items : Reader (List NodeId)) (tokens : List Token) :=
          collection p.anchor (.sequence (p.collectionTag .sequence)) items { r with tokens }
        let mapping (entries : Reader (List (NodeId × NodeId))) (tokens : List Token) :=
          collection p.anchor (.mapping (p.collectionTag .mapping)) entries { r with tokens }
        match tokens, position with
        | .blockEntry :: _, .inMapping => sequence (looseItems d fuel) tokens
        | .scalar isPlain text :: tokens, _ =>
          .ok (({ r with tokens } : Reading).add (.scalar (p.scalarTag isPlain text) text) p.anchor)
        | .flowSequenceStart :: tokens, _ => sequence (flowItems d true fuel) tokens
        | .flowMappingStart :: tokens, _ => mapping (flowEntries d true fuel) tokens
        | .blockSequenceStart :: tokens, .inBlock | .blockSequenceStart :: tokens, .inMapping =>
          sequence (blockItems d fuel) tokens
        | .blockMappingStart :: tokens, .inBlock | .blockMappingStart :: tokens, .inMapping =>
          mapping (blockEntries d fuel) tokens
        | tokens, _ =>
          if p.anchor.isSome || p.tag.isSome then
            let n := Node.scalar (p.scalarTag true (.whole "")) (.whole "")
            .ok (({ r with tokens } : Reading).add n p.anchor)
          else .error .notDocument
termination_by structural fuel => fuel

def blockItems (d : Prologue) : Nat → Reader (List NodeId)
  | 0, _ => .error .notDocument
  | fuel + 1, r =>
    match r.tokens with
    | .blockEntry :: tokens => do
      let absent : Token → Bool := fun
        | .blockEntry | .blockEnd => true
        | _ => false
      let (item, r) ← optionalNode absent (node d .inBlock fuel) { r with tokens }
      let (items, r) ← blockItems d fuel r
      .ok (item :: items, r)
    | .blockEnd :: tokens => .ok ([], { r with tokens })
    | [] => .error d.shortage
    | _ => .error .notDocument
termination_by structural fuel => fuel

/-- The items of a sequence that has no indentation of its own. -/
def looseItems (d : Prologue) : Nat → Reader (List NodeId)
  | 0, _ => .error .notDocument
  | fuel + 1, r =>
    match r.tokens with
    | .blockEntry :: tokens => do
      let absent : Token → Bool := fun t => t = .blockEntry || endsBlockPart t
      let (item, r) ← optionalNode absent (node d .inBlock fuel) { r with tokens }
      let (items, r) ← looseItems d fuel r
      .ok (item :: items, r)
    | _ => .ok ([], r)
termination_by structural fuel => fuel

def blockEntries (d : Prologue) : Nat → Reader (List (NodeId × NodeId))
  | 0, _ => .error .notDocument
  | fuel + 1, r =>
    match r.tokens with
    | .key :: tokens => do
      let (key, r) ← optionalNode endsBlockPart (node d .inMapping fuel) { r with tokens }
      let (value, r) ← match r.tokens with
        | .value :: tokens =>
          optionalNode endsBlockPart (node d .inMapping fuel) { r with tokens }
        | _ => .ok (r.add .empty none)
      let (entries, r) ← blockEntries d fuel r
      .ok ((key, value) :: entries, r)
    | .blockEnd :: tokens => .ok ([], { r with tokens })
    | [] => .error d.shortage
    | _ => .error .notDocument
termination_by structural fuel => fuel

/-- The items of a sequence in brackets, to the closing one. A pair without braces of its own is a
mapping. -/
def flowItems (d : Prologue) (first : Bool) : Nat → Reader (List NodeId)
  | 0, _ => .error .notDocument
  | fuel + 1, r =>
    match r.tokens, first with
    | .flowSequenceEnd :: tokens, _ | .flowEntry :: .flowSequenceEnd :: tokens, false =>
      .ok ([], { r with tokens })
    | .flowEntry :: .key :: tokens, false | .key :: tokens, true => do
      let (item, r) ← collection none (.mapping .mapping) (flowPair d fuel) { r with tokens }
      let (items, r) ← flowItems d false fuel r
      .ok (item :: items, r)
    | .flowEntry :: tokens, false | tokens, true => do
      let (item, r) ← node d .inFlow fuel { r with tokens }
      let (items, r) ← flowItems d false fuel r
      .ok (item :: items, r)
    | [], false => .error d.shortage
    | _, false => .error .notDocument
termination_by structural fuel => fuel

def flowPair (d : Prologue) : Nat → Reader (List (NodeId × NodeId))
  | 0, _ => .error .notDocument
  | fuel + 1, r => do
    let absent : Token → Bool := fun
      | .value | .flowEntry | .flowSequenceEnd => true
      | _ => false
    let (key, r) ← optionalNode absent (node d .inFlow fuel) r
    let absent : Token → Bool := fun t => t = .flowEntry || t = .flowSequenceEnd
    let (value, r) ← match r.tokens with
      | .value :: tokens => optionalNode absent (node d .inFlow fuel) { r with tokens }
      | _ => .ok (r.add .empty none)
    .ok ([(key, value)], r)
termination_by structural fuel => fuel

def flowEntries (d : Prologue) (first : Bool) : Nat → Reader (List (NodeId × NodeId))
  | 0, _ => .error .notDocument
  | fuel + 1, r =>
    match r.tokens, first with
    | .flowMappingEnd :: tokens, _ | .flowEntry :: .flowMappingEnd :: tokens, false =>
      .ok ([], { r with tokens })
    | .flowEntry :: .key :: tokens, false | .key :: tokens, true => do
      let absent : Token → Bool := fun
        | .value | .flowEntry | .flowMappingEnd => true
        | _ => false
      let (key, r) ← optionalNode absent (node d .inFlow fuel) { r with tokens }
      let absent : Token → Bool := fun t => t = .flowEntry || t = .flowMappingEnd
      let (value, r) ← match r.tokens with
        | .value :: tokens => optionalNode absent (node d .inFlow fuel) { r with tokens }
        | _ => .ok (r.add .empty none)
      let (entries, r) ← flowEntries d false fuel r
      .ok ((key, value) :: entries, r)
    | .flowEntry :: tokens, false | tokens, true => do
      let (key, r) ← node d .inFlow fuel { r with tokens }
      let (value, r) := r.add .empty none
      let (entries, r) ← flowEntries d false fuel r
      .ok ((key, value) :: entries, r)
    | [], false => .error d.shortage
    | _, false => .error .notDocument
termination_by structural fuel => fuel

end

/-- What the directives before a document settle, and the tokens behind them. A version other than
the first and a handle that is given twice are refused. -/
def directives (version : Bool) (handles : List (String × String)) :
    List Token → Except Problem (List (String × String) × List Token)
  | .directive (.version major) :: rest =>
    if version || major ≠ 1 then .error .notDocument else directives true handles rest
  | .directive (.handle name target) :: rest =>
    if handles.any (·.1 = name) then .error .notDocument
    else directives version ((name, target) :: handles) rest
  | .directive .other :: rest => directives version handles rest
  | tokens => .ok (handles, tokens)

/-- Nothing but marks of an end may follow a document. Directives are read before that is known. -/
def expectEnd (d : Prologue) (tokens : List Token) : Except Problem Unit := do
  d.look tokens
  match tokens.dropWhile (· = .documentEnd), d.ending with
  | [], none => .ok ()
  | tokens, _ =>
    let (_, tokens) ← directives false [] tokens
    d.look tokens
    .error .notDocument

def stepLimit (tokens : List Token) : Nat :=
  3 * tokens.length + 6

def wholeDocument (d : Prologue) (tokens : List Token) : Except Problem Document := do
  let (root, r) ← node d .inBlock (stepLimit tokens) { tokens }
  expectEnd d r.tokens
  .ok ⟨r.nodes, root⟩

def Document.blank : Document :=
  ⟨#[.empty], 0⟩

def document? (tokens : List Token) (ending : Option Problem) :
    Except Problem (Option Document) := do
  let d : Prologue := { ending }
  d.look tokens
  match tokens with
  | [] => .ok none
  | .directive _ :: _ | .documentStart :: _ =>
    let (handles, tokens) ← directives false [] tokens
    match tokens with
    | .documentStart :: rest =>
      let d := { d with handles := handles ++ d.handles }
      d.look rest
      match rest with
      | [] | .directive _ :: _ | .documentStart :: _ | .documentEnd :: _ =>
        expectEnd d rest
        .ok (some .blank)
      | _ => (wholeDocument d rest).map some
    | [] => .error d.shortage
    | _ => .error .notDocument
  | _ => (wholeDocument d tokens).map some

end TreeWatch.Yaml
