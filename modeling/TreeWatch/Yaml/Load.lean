import TreeWatch.Yaml.Portion
import TreeWatch.Yaml.Document
import TreeWatch.Yaml.Unfolding

/-!
# Reading settings documents

What the content of a file comes to. A file without a document comes to nothing.
-/

namespace TreeWatch.Yaml

def load (content : Bytes) : Except Problem Outcome := do
  let r := (Readable.ofBytes content).allowed
  let (tokens, ending) := tokens r.text r.beyond
  match ← document? tokens ending with
  | none => .ok .nothing
  | some d => (Construction.ofDocument d).map fun c => c.outcome d.root

end TreeWatch.Yaml
