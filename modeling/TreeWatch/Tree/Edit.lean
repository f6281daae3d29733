import TreeWatch.Tree.Node

/-!
# Changes of a tree

Changes at a literal path: no link is followed on the way. Directories that are missing on the
way to a new node are made; a change whose way is blocked changes nothing.
-/

namespace TreeWatch

namespace Node

/-- Replaces, adds or takes away the entry of a given name. A new entry comes last. -/
def alterEntry (name : String) (f : Option Node → Option Node) : List Node → List Node
  | [] => (f none).toList
  | n :: rest =>
    if n.name = name then (f (some n)).toList ++ rest else n :: alterEntry name f rest

/-- Changes the node at a path; `make` says whether missing directories are made on the way. -/
def alterAt (make : Bool) (f : Option Node → Option Node) : List String → Node → Node
  | [], n => (f (some n)).getD n
  | [name], directory a entries => directory a (alterEntry name f entries)
  | name :: rest, directory a entries =>
    directory a <| alterEntry name (fun
      | some n => some (alterAt make f rest n)
      | none => if make then some (alterAt make f rest (emptyDirectory name)) else none) entries
  | _, n => n

/-- The tree with bytes added to the file of a given serial number, which gets a time by it if one
is given. -/
def appendTo (serial : Nat) (bytes : Bytes) (time? : Option Int) : Node → Node
  | file a s content =>
    if s = serial then file { a with time := time?.getD a.time } s (content ++ bytes)
    else file a s content
  | directory a entries => directory a (appendAll serial bytes time? entries)
  | n => n
termination_by structural n => n
where
  appendAll (serial : Nat) (bytes : Bytes) (time? : Option Int) : List Node → List Node
    | [] => []
    | n :: rest => appendTo serial bytes time? n :: appendAll serial bytes time? rest
  termination_by structural ns => ns

end Node

inductive Edit where
  | makeDirectory (path : List String) (time : Int)
  | write (path : List String) (content : Bytes) (time : Int)
  | link (path : List String) (target : String) (time : Int)
  | special (path : List String) (kind : SpecialKind) (time : Int)
  | remove (path : List String)
  | rename (path target : List String)
  | touch (path : List String) (time : Int)
  | fault (path : List String) (on : Operation) (errno : Option Errno)

namespace Edit

/-- The last name of a path, which a new node at it gets. -/
def lastName (path : List String) : String :=
  path.getLastD ""

/-- The tree after a change; `serial` is the number of the file that the change may create. -/
def apply (serial : Nat) (root : Node) : Edit → Node
  | makeDirectory path time =>
    root.alterAt true (fun
      | some (.directory a entries) => some (.directory { a with time } entries)
      | some n => some n
      | none => some (.directory { name := lastName path, time } [])) path
  | write path content time =>
    root.alterAt true (fun
      | some (.file a s _) => some (.file { a with time } s content)
      | some (.directory a entries) => some (.directory a entries)
      | _ => some (.file { name := lastName path, time } serial content)) path
  | link path target time =>
    root.alterAt true (fun _ => some (.link { name := lastName path, time } target)) path
  | special path kind time =>
    root.alterAt true (fun _ => some (.special { name := lastName path, time } kind)) path
  | remove path => root.alterAt false (fun _ => none) path
  | rename path target =>
    match root.at? path with
    | none => root
    | some n =>
      let moved := n.withAttributes fun a => { a with name := lastName target }
      (root.alterAt false (fun _ => none) path).alterAt true (fun _ => some moved) target
  | touch path time =>
    root.alterAt false (Option.map (·.withAttributes fun a => { a with time })) path
  | fault path on errno =>
    root.alterAt false
      (Option.map (·.withAttributes fun a => { a with faults := a.faults.set on errno })) path

end Edit

end TreeWatch
