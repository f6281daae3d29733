import TreeWatch.Tree.Edit
import TreeWatch.Tree.Lookup
import TreeWatch.Failure
import TreeWatch.Host

/-!
# The world

What a program finds around it: a tree of files, a working directory, the environment, the
platform, a terminal or none, the time of day, and the system that it runs on.
-/

namespace TreeWatch

/-- The state of everything outside the program. -/
structure World where
  root : Node := .directory { name := "" } []
  nextSerial : Nat := 0
  directory : List String := []
  environment : List (String × String) := []
  platform : String := "linux"
  onTerminal : Bool := false
  /-- Seconds since the start of 1970. -/
  now : Int := 0
  host : Host := {}
  /-- The times that a file gets, by its serial number, from the lines that are added to it from
  here on, the next one first. A file keeps its time where none is given. -/
  stamps : Nat → Nat → Option Int := fun _ _ => none

namespace World

def lookup? (w : World) (name : String) : Option String :=
  (w.environment.find? (·.1 = name)).map (·.2)

/-- The value of an environment variable that is set to something. -/
def setting? (w : World) (name : String) : Option String :=
  (w.lookup? name).filter (· ≠ "")

def setVariable (w : World) (name : String) (value : Option String) : World :=
  let others := w.environment.filter (·.1 ≠ name)
  { w with environment := others ++ (value.map (name, ·)).toList }

/-- The directory that a tilde before the name of a user stands for. A tilde alone asks for the
environment first. -/
def home? (w : World) (user : String) : Option String :=
  (if user = "" then w.lookup? "HOME" else none) <|> w.host.home? user

def isTooLong (w : World) (seconds : Float) : Bool :=
  w.host.longestWait?.any (· < seconds)

def edit (w : World) (e : Edit) : World :=
  { w with root := e.apply w.nextSerial w.root, nextSerial := w.nextSerial + 1 }

def find (w : World) (p : Path) : Except Errno Lookup.Place :=
  Lookup.find w.root w.directory p

/-- The node that a path leads to, if its attributes can be read. -/
def stat (w : World) (p : Path) : Except Errno Node := do
  let (_, n) ← w.find p
  match n.faults.stat with
  | some e => .error e
  | none => .ok n

/-- Answers a question about the node at a path with no when there is no such node. -/
def ask (w : World) (p : Path) (question : Node → Bool) : Except Failure Bool :=
  if p.hasNul then .ok false
  else
    match w.stat p with
    | .ok n => .ok (question n)
    | .error e => if e.meansAbsent then .ok false else .error (.system ⟨e, p.text⟩)

def exists? (w : World) (p : Path) : Except Failure Bool :=
  w.ask p fun _ => true

def isDirectory? (w : World) (p : Path) : Except Failure Bool :=
  w.ask p Node.isDirectory

def openNode (w : World) (p : Path) : Except Errno Node := do
  let (_, n) ← w.find p
  match n.faults.openFile with
  | some e => .error e
  | none => if n.isDirectory then .error .isDirectory else .ok n

/-- The content of the file at a path. Nodes other than files and directories are empty. -/
def readFile (w : World) (p : Path) : Except Errno Bytes := do
  match ← w.openNode p with
  | .file _ _ content => .ok content
  | _ => .ok []

def expandHome (w : World) (p : Path) : Except Failure Path :=
  match p.expandHome? w.home? with
  | some q => .ok q
  | none => .error .homeUnknown

/-- The times that lines give to files once another one was added to the file of a serial
number. -/
def stampsAfter (w : World) (serial : Nat) : Nat → Nat → Option Int := fun n =>
  if n = serial then fun k => w.stamps n (k + 1) else w.stamps n

/-- Adds a line to the file of a serial number, if the tree still holds it. -/
def appendTo (w : World) (serial : Nat) (bytes : Bytes) : World :=
  { w with
    root := w.root.appendTo serial bytes (w.stamps serial 0)
    stamps := w.stampsAfter serial }

/-- Where a file is made for a path that leads to nothing yet: in the directory that the
parts before the last lead to, or where a link without a target points. -/
def creationPlace (w : World) : Nat → List String → Path → Except Errno (List String)
  | 0, _, _ => .error .tooManyLinks
  | links + 1, here, p => do
    let name := Edit.lastName p.parts
    let (names, parent) ← Lookup.find w.root here ⟨p.lead, p.parts.dropLast⟩
    if !parent.isDirectory then .error .notDirectory
    else
      match parent.child? name with
      | some (.link _ target) => w.creationPlace links names (Path.ofText target)
      | _ => .ok (names ++ [name])

/-- Opens a file for adding lines at its end, creating it in a directory that exists. The
answer is the serial number of the file. -/
def openAppend (w : World) (p : Path) : Except Errno (Nat × World) :=
  match w.openNode p with
  | .ok (.file _ serial _) => .ok (serial, w)
  | .ok _ => .ok (w.nextSerial, { w with nextSerial := w.nextSerial + 1 })
  | .error .notFound =>
    match w.find p with
    | .ok _ => .error .notFound
    | .error _ => do
      let names ← w.creationPlace Lookup.linkLimit w.directory p
      .ok (w.nextSerial, w.edit (.write names [] defaultTime))
  | .error e => .error e

end World

end TreeWatch
