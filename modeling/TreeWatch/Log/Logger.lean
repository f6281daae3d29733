import TreeWatch.Log.Record

/-!
# Loggers by name

The loggers of the family by their names, in which dots stand between a logger and the one above
it. A cut is a dot at which the search for the one above stops. The search goes from the right, and
a dot right before a cut is not one itself, so that a name with two dots together may be cut past
the name of the family. Such a logger belongs to nobody: the level of the family does not concern
it, and its records reach none of the sinks.
-/

namespace TreeWatch.Log

/-- The places of the cuts within the start of a name that has so many characters, from the right. A
dot in the first place is none. -/
def cutsBelow (name : List Char) : Nat → List Nat
  | 0 | 1 => []
  | limit + 2 =>
    if name[limit + 1]? = some '.' then (limit + 1) :: cutsBelow name limit
    else cutsBelow name (limit + 1)

/-- The nearest logger above a name, among those that are known. -/
def parent? (known : List String) (name : String) : Option String :=
  let cs := name.toList
  ((cutsBelow cs cs.length).map fun place => String.ofList (cs.take place)).find? fun above =>
    above = family || known.contains above

/-- Whether a name leads up to that of the family. Every step makes the name shorter. -/
def leadsUp (known : List String) : Nat → String → Bool
  | 0, _ => false
  | fuel + 1, name =>
    name = family || (parent? known name).any (leadsUp known fuel)

def belongs (known : List String) (name : String) : Bool :=
  leadsUp known (name.length + 1) name

end TreeWatch.Log
