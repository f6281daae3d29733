import TreeWatch.Tree.Errno

/-!
# Trees of directories

A node carries its own name, its modification time and the errors with which operations on it
fail. A directory holds its entries in the order of their creation.
-/

namespace TreeWatch

inductive Operation where
  | list
  | classify
  | isDir
  | isFile
  | stat
  | openFile
  deriving DecidableEq

structure Faults where
  list : Option Errno := none
  classify : Option Errno := none
  isDir : Option Errno := none
  isFile : Option Errno := none
  stat : Option Errno := none
  openFile : Option Errno := none
  deriving DecidableEq

namespace Faults

def set (f : Faults) (on : Operation) (errno : Option Errno) : Faults :=
  match on with
  | .list => { f with list := errno }
  | .classify => { f with classify := errno }
  | .isDir => { f with isDir := errno }
  | .isFile => { f with isFile := errno }
  | .stat => { f with stat := errno }
  | .openFile => { f with openFile := errno }

end Faults

/-- The modification time of a node for which none is given, in nanoseconds. -/
def defaultTime : Int :=
  1700000000000000000

structure Attributes where
  name : String
  time : Int := defaultTime
  faults : Faults := {}
  deriving DecidableEq

/-- The nodes that are neither files nor directories nor links. -/
inductive SpecialKind where
  | fifo
  | socket
  | device
  deriving DecidableEq

/-- A node of a tree. The serial number of a file stays with it wherever it is moved. -/
inductive Node where
  | file (attributes : Attributes) (serial : Nat) (content : Bytes)
  | directory (attributes : Attributes) (entries : List Node)
  | link (attributes : Attributes) (target : String)
  | special (attributes : Attributes) (kind : SpecialKind)

namespace Node

def attributes : Node → Attributes
  | file a _ _ | directory a _ | link a _ | special a _ => a

def name (n : Node) : String :=
  n.attributes.name

def time (n : Node) : Int :=
  n.attributes.time

def faults (n : Node) : Faults :=
  n.attributes.faults

def withAttributes (f : Attributes → Attributes) : Node → Node
  | file a serial content => file (f a) serial content
  | directory a entries => directory (f a) entries
  | link a target => link (f a) target
  | special a kind => special (f a) kind

def isDirectory : Node → Bool
  | directory _ _ => true
  | _ => false

/-- The entries of a directory; other nodes have none. -/
def entries : Node → List Node
  | directory _ entries => entries
  | _ => []

def child? (n : Node) (name : String) : Option Node :=
  n.entries.find? (·.name = name)

/-- The node that a list of names leads to, taken literally. -/
def at? (n : Node) : List String → Option Node
  | [] => some n
  | name :: rest => (n.child? name).bind (·.at? rest)

def emptyDirectory (name : String) : Node :=
  directory { name } []

@[simp] theorem attributes_withAttributes (f : Attributes → Attributes) (n : Node) :
    (n.withAttributes f).attributes = f n.attributes := by
  cases n <;> rfl

theorem entries_eq_nil_of_not_isDirectory {n : Node} (h : n.isDirectory = false) :
    n.entries = [] := by
  cases n <;> simp_all [isDirectory, entries]

end Node

end TreeWatch
