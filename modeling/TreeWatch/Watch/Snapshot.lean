import TreeWatch.Watch.Event

/-!
# Snapshots

The entries of a directory at one moment with their modification times, and what changed from
one moment to another.
-/

namespace TreeWatch

/-- Paths from the watched directory with modification times, in the order of the walk. -/
abbrev Snapshot := List (String × Int)

namespace Snapshot

def time? (s : Snapshot) (path : String) : Option Int :=
  (s.find? (·.1 = path)).map (·.2)

/-- Gives a path a time: one that is there keeps its place, a new one comes last. -/
def put (path : String) (time : Int) : Snapshot → Snapshot
  | [] => [(path, time)]
  | e :: rest => if e.1 = path then (path, time) :: rest else e :: put path time rest

def ofList (pairs : List (String × Int)) : Snapshot :=
  pairs.foldl (fun s (path, time) => put path time s) []

def arrival (old : Snapshot) (entry : String × Int) : Option Event :=
  match old.time? entry.1 with
  | none => some ⟨.created, entry.1⟩
  | some time => if time = entry.2 then none else some ⟨.modified, entry.1⟩

def departure (new : Snapshot) (entry : String × Int) : Option Event :=
  match new.time? entry.1 with
  | none => some ⟨.deleted, entry.1⟩
  | some _ => none

/-- The changes from one snapshot to another: first what is new or modified, in the order of the
later one, then what is gone, in the order of the earlier one. -/
def diff (old new : Snapshot) : List Event :=
  new.filterMap (arrival old) ++ old.filterMap (departure new)

end Snapshot

end TreeWatch
