import TreeWatch.Watch.Spec
import TreeWatch.Watch.Snapshot
import TreeWatch.Log.Record

/-!
# Walking a directory

The entries below a directory in the order of their names, each before what it holds. The walk
keeps a stack of the directories that it is in, with the entries that are still to come in each.
An entry that cannot be looked at is skipped with everything below it, and nothing else is.
-/

namespace TreeWatch

namespace Node

mutual

def weight : Node → Nat
  | directory _ entries => weightAll entries + 2
  | file _ _ _ | link _ _ | special _ _ => 2
termination_by structural n => n

def weightAll : List Node → Nat
  | [] => 0
  | n :: rest => weight n + weightAll rest
termination_by structural ns => ns

end

theorem weightAll_perm {ns ms : List Node} (h : ns.Perm ms) : weightAll ns = weightAll ms := by
  induction h with
  | nil => rfl
  | cons n _ ih => simp [weightAll, ih]
  | swap n m rest =>
    simp only [weightAll]
    omega
  | trans _ _ first second => rw [first, second]

def precedes (a b : Node) : Bool :=
  !decide (b.name < a.name)

def sortByName (ns : List Node) : List Node :=
  ns.mergeSort precedes

theorem weightAll_sortByName (ns : List Node) : weightAll (sortByName ns) = weightAll ns :=
  weightAll_perm (ns.mergeSort_perm precedes)

theorem weight_eq (n : Node) : weight n = weightAll n.entries + 2 := by
  cases n <;> simp [entries, weight, weightAll]

end Node

inductive Finding where
  | entry (path : String) (time : Int)
  /-- An entry whose kind or time cannot be read. -/
  | hidden (path : String) (errno : Errno)
  /-- A directory that cannot be listed. -/
  | closed (path : String) (errno : Errno)
  deriving DecidableEq

namespace Finding

def entry? : Finding → Option (String × Int)
  | entry path time => some (path, time)
  | _ => none

def record? (root : Path) : Finding → Option Log.Record
  | entry _ _ => none
  | hidden path errno =>
    let place := Path.entryText root.text path
    some (.of .trace "snapshot" ("Skipping entry: Cannot inspect " ++ (Path.ofText place).text ++
      ": " ++ (SystemError.mk errno place).message))
  | closed path errno =>
    let place := Path.entryText root.text path
    some (.of .debug "snapshot" ("Skipping unreadable directory " ++ place ++ ": " ++
      (SystemError.mk errno place).message))

end Finding

namespace Walk

def check (fault : Option Errno) : Except Errno Unit :=
  match fault with
  | some e => .error e
  | none => .ok ()

/-- What kind of entry a node is. The questions are asked one after the other, and each is asked
only if those before it were answered with no. -/
def kindOf (n : Node) : Except Errno EntryKind := do
  check n.faults.classify
  match n with
  | .link _ _ => .ok .symlink
  | n =>
    check n.faults.isDir
    match n with
    | .directory _ _ => .ok .directory
    | n =>
      check n.faults.isFile
      match n with
      | .file _ _ _ => .ok .file
      | _ => .ok .other

/-- The kind of an entry, and its own time if it is reported. -/
def inspect (scope : Scope) (n : Node) : Except Errno (EntryKind × Option Int) := do
  let kind ← kindOf n
  if scope.tracks kind then
    check n.faults.stat
    .ok (kind, some n.time)
  else .ok (kind, none)

def list (n : Node) : Except Errno (List Node) := do
  check n.faults.list
  .ok (Node.sortByName n.entries)

/-- A directory that a walk is in: what the paths of its entries begin with, and the entries to
come. -/
structure Frame where
  base : String
  pending : List Node

/-- A number that falls with every step of a walk. -/
def weight : List Frame → Nat
  | [] => 0
  | f :: outer => Node.weightAll f.pending + 1 + weight outer

theorem weight_append (inner outer : List Frame) :
    weight (inner ++ outer) = weight inner + weight outer := by
  induction inner with
  | nil => simp [weight]
  | cons f rest ih =>
    simp only [List.cons_append, weight, ih]
    omega

/-- The findings at an entry itself, and the entries below it that are to be walked. -/
def visit (scope : Scope) (base : String) (n : Node) : List Finding × List Frame :=
  let path := base ++ n.name
  match inspect scope n with
  | .error e => ([.hidden path e], [])
  | .ok (kind, time) =>
    let own := (time.map (Finding.entry path)).toList
    if kind = .directory && scope.recursive then
      match list n with
      | .error e => (own ++ [.closed path e], [])
      | .ok entries => (own, [⟨path ++ "/", entries⟩])
    else (own, [])

theorem eq_sortByName_of_list {n : Node} {entries : List Node} (h : list n = .ok entries) :
    entries = Node.sortByName n.entries := by
  unfold list check at h
  split at h <;> simp_all [bind, Except.bind]

theorem weight_visit_lt (scope : Scope) (base : String) (n : Node) :
    weight (visit scope base n).2 < n.weight := by
  rw [Node.weight_eq]
  unfold visit
  split
  · simp [weight]
  · dsimp only
    split
    · split
      · simp [weight]
      · next h => simp [weight, eq_sortByName_of_list h, Node.weightAll_sortByName]
    · simp [weight]

def run (scope : Scope) : List Frame → List Finding
  | [] => []
  | ⟨_, []⟩ :: outer => run scope outer
  | ⟨base, n :: pending⟩ :: outer =>
    (visit scope base n).1 ++ run scope ((visit scope base n).2 ++ ⟨base, pending⟩ :: outer)
termination_by stack => weight stack
decreasing_by
  · simp [weight]
  · have := weight_visit_lt scope base n
    simp only [weight_append, weight, Node.weightAll]
    omega

@[simp] theorem run_nil (scope : Scope) : run scope [] = [] := by
  rw [run]

@[simp] theorem run_done (scope : Scope) (base : String) (outer : List Frame) :
    run scope (⟨base, []⟩ :: outer) = run scope outer := by
  rw [run]

theorem run_cons (scope : Scope) (base : String) (n : Node) (pending : List Node)
    (outer : List Frame) :
    run scope (⟨base, n :: pending⟩ :: outer) =
      (visit scope base n).1 ++ run scope ((visit scope base n).2 ++ ⟨base, pending⟩ :: outer) := by
  rw [run]

def listRoot (w : World) (root : Path) : Except SystemError (List Node) :=
  match w.find root with
  | .error e => .error ⟨e, root.text⟩
  | .ok (_, n) =>
    if n.isDirectory then (list n).mapError (⟨·, root.text⟩)
    else .error ⟨.notDirectory, root.text⟩

def findings (w : World) (scope : Scope) (root : Path) : Except SystemError (List Finding) :=
  (listRoot w root).map fun entries => run scope [⟨"", entries⟩]

end Walk

def Snapshot.ofFindings (fs : List Finding) : Snapshot :=
  Snapshot.ofList (fs.filterMap Finding.entry?)

/-- The snapshot of the directory that a path leads to, with the records of what was skipped. -/
def Snapshot.take (w : World) (scope : Scope) (root : Path) :
    Log.Reported (Except Failure Snapshot) :=
  if root.hasNul then pure (.error .malformed)
  else
    match Walk.findings w scope root with
    | .error e => pure (.error (.rootVanished root e))
    | .ok fs => ⟨.ok (Snapshot.ofFindings fs), fs.filterMap (Finding.record? root)⟩

end TreeWatch
