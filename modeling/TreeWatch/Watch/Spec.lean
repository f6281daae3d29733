import TreeWatch.World
import TreeWatch.Watch.Interval

/-!
# What is watched

A directory with what counts as an entry of it. A request is made by a user; it becomes a
specification when its directory is found and its interval is positive.
-/

namespace TreeWatch

inductive EntryKind where
  | file
  | directory
  | symlink
  /-- A fifo, a socket or a device. -/
  | other
  deriving DecidableEq

structure Scope where
  recursive : Bool := true
  trackDirectories : Bool := false
  trackSymlinks : Bool := false
  deriving DecidableEq

def Scope.tracks (s : Scope) : EntryKind → Bool
  | .file => true
  | .directory => s.trackDirectories
  | .symlink => s.trackSymlinks
  | .other => false

/-- What somebody asks to be watched. -/
structure Request where
  root : Path
  scope : Scope := {}
  interval : Interval := .seconds 1.0

/-- What is watched: a directory by its own path, and a positive interval. -/
structure Spec where
  root : Path
  scope : Scope
  interval : Float

def Request.validate (w : World) (r : Request) : Except Failure Spec := do
  let root ← w.expandHome r.root
  if !(← w.exists? root) then .error (.invalidRoot .missing root)
  else if !(← w.isDirectory? root) then .error (.invalidRoot .notDirectory root)
  else
    match r.interval.isPositive? with
    | none => .error .wrongKind
    | some false => .error (.intervalNotPositive r.interval.literal)
    | some true =>
      match w.find root with
      | .error e => .error (.system ⟨e, root.text⟩)
      | .ok (names, _) =>
        match r.interval.toFloat? with
        | none => .error .tooLarge
        | some interval => .ok ⟨.absolute names, r.scope, interval⟩

end TreeWatch
