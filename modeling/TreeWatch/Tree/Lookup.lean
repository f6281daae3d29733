import TreeWatch.Tree.Node
import TreeWatch.Path

/-!
# Finding nodes

Where a path leads in a tree when links are followed. At most forty links are followed on one
way, so that links in a circle come to an end.
-/

namespace TreeWatch.Lookup

/-- The names on the way and the node found at their end. -/
abbrev Place := List String × Node

/-- The parts of the target of a link. A slash at its end asks for a directory, which a dot
does too. -/
def targetParts (target : String) : List String :=
  Path.partsOf target ++ if target.endsWith "/" then ["."] else []

/-- Goes on from a directory, given by the names that lead to it. The way that a link leads to
is left to `follow`, which gets the directory that it starts from and the parts to go. -/
def walk (root : Node) (follow : List String → List String → Except Errno Place) :
    List String → List String → Except Errno Place
  | here, [] =>
    match root.at? here with
    | some n => .ok (here, n)
    | none => .error .notFound
  | here, part :: rest =>
    match root.at? here with
    | none => .error .notFound
    | some n =>
      if n.isDirectory then
        if part = "." then walk root follow here rest
        else if part = ".." then walk root follow here.dropLast rest
        else
          match n.child? part with
          | none => .error .notFound
          | some (.link _ target) =>
            if target = "" then .error .notFound
            else
              follow (if target.startsWith "/" then [] else here) (targetParts target ++ rest)
          | some _ => walk root follow (here ++ [part]) rest
      else .error .notDirectory

def walkWithin (root : Node) : Nat → List String → List String → Except Errno Place
  | 0 => walk root fun _ _ => .error .tooManyLinks
  | links + 1 => walk root (walkWithin root links)

def linkLimit : Nat :=
  40

def find (root : Node) (here : List String) (p : Path) : Except Errno Place :=
  walkWithin root linkLimit (if p.isAbsolute then [] else here) p.parts

end TreeWatch.Lookup
