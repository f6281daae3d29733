import Mathlib
import TreeWatch.Proofs.Log.Lifecycle
import TreeWatch.Proofs.Log.Setup
import TreeWatch.Proofs.Settings.Coercion

/-!
# Attempts that fail

A log counts as set up from the moment that somebody tries to. When the attempt fails, neither the
world nor the sinks have changed, but no other attempt is made until the log is reset, and that
takes back all that the failed one did.
-/

namespace TreeWatch.Log

namespace Journal

end Journal

end TreeWatch.Log
