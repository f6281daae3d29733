import TreeWatch.Value.Basic
import TreeWatch.Failure

/-!
# Layers of settings

Later layers win. Mappings are merged entry by entry, anything else takes the place of what was
there, and nothing leaves it alone. A mapping that holds itself along mappings alone would be merged
without end, so it is refused.
-/

namespace TreeWatch.Layers

mutual

def overlay (current : Option Value) : Value → Value
  | .map entries =>
    match current with
    | some (.map below) => .map (mergeInto below entries)
    | _ => .map (mergeInto [] entries)
  | value => value
termination_by structural value => value

/-- Lays the entries of a layer over those that are there. -/
def mergeInto (target : Entries) : Entries → Entries
  | [] => target
  | (_, .null) :: rest => mergeInto target rest
  | (key, value) :: rest =>
    mergeInto (target.put key (overlay (target.get? key) value)) rest
termination_by structural entries => entries

end

/-- The entries of a layer. A layer that is missing has none. -/
def entriesOf : Value → Entries
  | .map entries => entries
  | _ => []

/-- The entries that come from laying layers over each other, the lowest first. -/
def merge (layers : List Value) : Entries :=
  layers.foldl (fun target layer => mergeInto target (entriesOf layer)) []

mutual

/-- Whether a merge that goes into a value would come to no end. -/
def isBottomless : Value → Bool
  | .knot isMapping _ => isMapping
  | .map entries => anyBottomless entries
  | _ => false
termination_by structural value => value

def anyBottomless : Entries → Bool
  | [] => false
  | (_, value) :: rest => isBottomless value || anyBottomless rest
termination_by structural entries => entries

end

def merge? (layers : List Value) : Except Failure Entries :=
  if layers.any isBottomless then .error .endless else .ok (merge layers)

end TreeWatch.Layers
